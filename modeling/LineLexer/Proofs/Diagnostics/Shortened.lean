import LineLexer.Diagnostics.Event
import LineLexer.Proofs.Position.Layout
import Mathlib.Order.Bounds.Basic

/-!
# Messages that are too long

An event keeps its message up to a number of bytes. A message that has more is cut at the last place
between two characters that is within the limit: from the limit on, the search goes down byte by byte
until it is at such a place (`Text.boundaryBelow?`). It ends at the start of the text at the latest, and
as no character has more than four bytes it gives up three bytes at most
(`Text.limit_le_frontWithin`). What is kept in front of the cut is the longest front of the message
that fits (`Diagnostics.Event.message_shortened`).
-/

namespace LineLexer

namespace Text

/-! ## The longest front -/

/-- Of the fronts of a text that have at most `limit` bytes this is the longest one. -/
structure IsLongestFront (limit : Nat) (text front : List Char) : Prop where
  isFront : front <+: text
  byteLength_le : byteLength front ≤ limit
  longest : ∀ other, other <+: text → byteLength other ≤ limit → other <+: front

/-- A front is the longest one if there is no room for the character behind it. -/
theorem isLongestFront_append {limit : Nat} {front : List Char} {c : Char} (rest : List Char)
    (hle : byteLength front ≤ limit) (hlt : limit < byteLength front + c.utf8Size) :
    IsLongestFront limit (front ++ c :: rest) front := by
  refine ⟨List.prefix_append front (c :: rest), hle, ?_⟩
  intro other hother hfits
  obtain hshort | ⟨more, rfl⟩ :=
    List.prefix_or_prefix_of_prefix hother (List.prefix_append front (c :: rest))
  · exact hshort
  · have hmore : more <+: c :: rest := (List.prefix_append_right_inj front).mp hother
    obtain rfl | ⟨tail, rfl, -⟩ := List.prefix_cons_iff.mp hmore
    · simp
    · -- a longer front has the character behind this one too
      rw [byteLength_append, byteLength_cons] at hfits
      omega

theorem IsLongestFront.unique {limit : Nat} {text front front' : List Char}
    (h : IsLongestFront limit text front) (h' : IsLongestFront limit text front') :
    front = front' := by
  have hle : front <+: front' := h'.longest front h.isFront h.byteLength_le
  have hge : front' <+: front := h.longest front' h'.isFront h'.byteLength_le
  exact hle.eq_of_length (Nat.le_antisymm hle.length_le hge.length_le)

/-- Behind the front of a text that is too long stands a character for which there is no room. -/
theorem exists_behind_frontWithin {limit : Nat} {text : List Char} (h : limit < byteLength text) :
    ∃ c rest, text = frontWithin limit text ++ c :: rest ∧
      byteLength (frontWithin limit text) ≤ limit ∧
      limit < byteLength (frontWithin limit text) + c.utf8Size := by
  induction text generalizing limit with
  | nil => simp at h
  | cons c text ih =>
    rw [byteLength_cons] at h
    rw [frontWithin]
    by_cases hroom : c.utf8Size ≤ limit
    · rw [if_pos hroom]
      obtain ⟨d, rest, htext, hle, hlt⟩ := ih (show limit - c.utf8Size < byteLength text by omega)
      refine ⟨d, rest, congrArg (c :: ·) htext, ?_, ?_⟩
      · rw [byteLength_cons]
        omega
      · rw [byteLength_cons]
        omega
    · rw [if_neg hroom]
      refine ⟨c, text, rfl, Nat.zero_le limit, ?_⟩
      rw [byteLength_nil]
      omega

theorem isLongestFront_frontWithin {limit : Nat} {text : List Char} (h : limit < byteLength text) :
    IsLongestFront limit text (frontWithin limit text) := by
  obtain ⟨c, rest, htext, hle, hlt⟩ := exists_behind_frontWithin h
  have hfront := isLongestFront_append rest hle hlt
  rwa [← htext] at hfront

/-- The front comes as close to the limit as characters of four bytes allow. -/
theorem limit_le_frontWithin {limit : Nat} {text : List Char} (h : limit < byteLength text) :
    limit ≤ byteLength (frontWithin limit text) + 3 := by
  obtain ⟨c, rest, -, -, hlt⟩ := exists_behind_frontWithin h
  have hsize : c.utf8Size ≤ 4 := c.utf8Size_le_four
  omega

/-! ## The way down to a boundary -/

/-- Goes down from a byte offset until it is at a place between two characters, which the byte there
tells; the answer is none if the way goes on below zero. -/
def boundaryBelow? (text : String) : (offset : Nat) → Option Nat
  | 0 => if String.Pos.Raw.isValid text ⟨0⟩ then some 0 else none
  | offset + 1 =>
    if String.Pos.Raw.isValid text ⟨offset + 1⟩ then some (offset + 1)
    else boundaryBelow? text offset

theorem isValid_iff_isBoundary (text : String) (offset : Nat) :
    String.Pos.Raw.isValid text ⟨offset⟩ = true ↔ IsBoundary text.toList offset := by
  rw [String.Pos.Raw.isValid_eq_true_iff, String.Pos.Raw.isValid_iff_exists_take_toList]
  constructor
  · rintro ⟨count, hcount⟩
    refine ⟨text.toList.take count, List.take_prefix count _, ?_⟩
    rw [← String.toList_ofList (l := text.toList.take count), byteLength_toList]
    exact hcount.symm
  · rintro ⟨front, hfront, hlength⟩
    refine ⟨front.length, ?_⟩
    rw [← List.prefix_iff_eq_take.mp hfront, ← byteLength_toList, String.toList_ofList]
    exact hlength.symm

theorem isBoundary_zero (text : List Char) : IsBoundary text 0 := ⟨[], List.nil_prefix, rfl⟩

/-- The boundaries of a text up to a byte offset. -/
def boundariesTo (text : List Char) (offset : Nat) : Set Nat :=
  {place | IsBoundary text place ∧ place ≤ offset}

/-- One byte down, no boundary is lost. -/
theorem boundariesTo_succ {text : List Char} {offset : Nat} (h : ¬IsBoundary text (offset + 1)) :
    boundariesTo text (offset + 1) = boundariesTo text offset := by
  ext place
  constructor
  · rintro ⟨hplace, hle⟩
    have hne : place ≠ offset + 1 := by
      intro heq
      exact h (heq ▸ hplace)
    exact ⟨hplace, by omega⟩
  · rintro ⟨hplace, hle⟩
    exact ⟨hplace, by omega⟩

/-- The way down ends, and it ends at the last boundary. -/
theorem exists_boundaryBelow? (text : String) (offset : Nat) : ∃ place,
    boundaryBelow? text offset = some place ∧ IsGreatest (boundariesTo text.toList offset) place := by
  induction offset with
  | zero =>
    have hzero : IsBoundary text.toList 0 := isBoundary_zero text.toList
    refine ⟨0, ?_, ⟨hzero, Nat.le_refl 0⟩, fun place hplace => hplace.2⟩
    rw [boundaryBelow?, if_pos ((isValid_iff_isBoundary text 0).mpr hzero)]
  | succ offset ih =>
    rw [boundaryBelow?]
    by_cases hvalid : String.Pos.Raw.isValid text ⟨offset + 1⟩ = true
    · rw [if_pos hvalid]
      have hhere := (isValid_iff_isBoundary text (offset + 1)).mp hvalid
      exact ⟨offset + 1, rfl, ⟨hhere, Nat.le_refl _⟩, fun place hplace => hplace.2⟩
    · rw [if_neg hvalid, boundariesTo_succ (mt (isValid_iff_isBoundary text (offset + 1)).mpr hvalid)]
      exact ih

/-- The longest front ends at the last boundary. -/
theorem IsLongestFront.isGreatest {limit : Nat} {text front : List Char}
    (h : IsLongestFront limit text front) : IsGreatest (boundariesTo text limit) (byteLength front) := by
  refine ⟨⟨⟨front, h.isFront, rfl⟩, h.byteLength_le⟩, ?_⟩
  rintro place ⟨⟨other, hother, hlength⟩, hle⟩
  obtain ⟨more, hmore⟩ := h.longest other hother (by omega)
  rw [← hlength, ← hmore, byteLength_append]
  omega

theorem boundaryBelow?_eq {text : String} {limit : Nat} (h : limit < byteLength text.toList) :
    boundaryBelow? text limit = some (byteLength (frontWithin limit text.toList)) := by
  obtain ⟨place, hfound, hplace⟩ := exists_boundaryBelow? text limit
  rw [hfound, hplace.unique (isLongestFront_frontWithin h).isGreatest]

end Text

namespace Diagnostics.Event

open Text

/-! ## What is kept of a message -/

/-- Shortens a message step by step; none if the way down goes below zero, or if the text cannot be
cut where it ends. -/
def shortenInSteps (message : String) : Option String :=
  if message.utf8ByteSize ≤ Limits.messageLength then some message
  else do
    let stop ← boundaryBelow? message Limits.messageLength
    let (front, _) ← splitBytes stop message.toList
    return String.ofList front ++ "..."

/-- No step fails, and they come to the shortened message. -/
theorem shortenInSteps_eq (message : String) : shortenInSteps message = some (shorten message) := by
  unfold shortenInSteps shorten
  by_cases hfits : message.utf8ByteSize ≤ Limits.messageLength
  · rw [if_pos hfits, if_pos hfits]
  · rw [if_neg hfits, if_neg hfits]
    have hlong : Limits.messageLength < byteLength message.toList := by
      rw [byteLength_toList]
      omega
    obtain ⟨back, hback⟩ := (isLongestFront_frontWithin hlong).isFront
    have hcut := splitBytes_append (frontWithin Limits.messageLength message.toList) back
    rw [hback] at hcut
    simp [boundaryBelow?_eq hlong, hcut]

/-- The events that are made with a message, and what becomes of them. -/
inductive MadeOf (message : String) : Event → Prop where
  | error (code : Code) (details : List (String × String)) : MadeOf message (.error code message details)
  | warning (code : Code) (details : List (String × String)) :
    MadeOf message (.warning code message details)
  | success (code : Code) (details : List (String × String)) :
    MadeOf message (.success code message details)
  | info (details : List (String × String)) : MadeOf message (.info message details)
  | debug (details : List (String × String)) : MadeOf message (.debug message details)
  | withSpan {event : Event} (h : MadeOf message event) (span : Span) :
    MadeOf message (event.withSpan span)
  | withDetail {event : Event} (h : MadeOf message event) (key value : String) :
    MadeOf message (event.withDetail key value)

theorem MadeOf.message_eq {message : String} {event : Event} (h : MadeOf message event) :
    event.message = shorten message := by
  induction h with
  | error => rfl
  | warning => rfl
  | success => rfl
  | info => rfl
  | debug => rfl
  | withSpan _ _ ih => exact ih
  | withDetail _ _ _ ih => exact ih

/-- The text that is kept of a message. -/
structure IsKeptOf (message kept : String) : Prop where
  whole : message.utf8ByteSize ≤ Limits.messageLength → kept = message
  /-- At most three of the bytes that are allowed are given up. -/
  front : Limits.messageLength < message.utf8ByteSize → ∃ front,
    IsLongestFront Limits.messageLength message.toList front ∧
      Limits.messageLength ≤ byteLength front + 3 ∧ kept = String.ofList front ++ "..."

theorem isKeptOf_shorten (message : String) : IsKeptOf message (shorten message) := by
  constructor
  · intro hfits
    rw [shorten, if_pos hfits]
  · intro hlong
    rw [shorten, if_neg (Nat.not_le.mpr hlong)]
    rw [← byteLength_toList] at hlong
    exact ⟨_, isLongestFront_frontWithin hlong, limit_le_frontWithin hlong, rfl⟩

/-- All steps of shortening a message succeed, and all events made with the message have the text that
comes of them: the message itself if it is short enough, and else the longest front that is. -/
theorem message_shortened (message : String) : ∃ kept,
    shortenInSteps message = some kept ∧ IsKeptOf message kept ∧
      ∀ event, MadeOf message event → event.message = kept := by
  refine ⟨shorten message, shortenInSteps_eq message, isKeptOf_shorten message, ?_⟩
  intro event h
  exact h.message_eq

/-- A letter of one byte with many characters of four bytes behind it. -/
def wideText (count : Nat) : List Char := 'a' :: List.replicate count '😀'

theorem byteLength_wideText (count : Nat) : byteLength (wideText count) = 1 + 4 * count := by
  have hwide : byteLength (List.replicate count '😀') = 4 * count := by
    induction count with
    | zero => rfl
    | succ count ih =>
      have hsize : '😀'.utf8Size = 4 := rfl
      rw [List.replicate_succ, byteLength_cons, ih, hsize]
      omega
  rw [wideText, byteLength_cons, hwide]
  rfl

/-- A message of one byte too many, of which three bytes more than that are given up. -/
theorem message_wideText :
    byteLength (wideText 2500) = Limits.messageLength + 1 ∧
      byteLength (wideText 2499) + 3 = Limits.messageLength ∧
      ∀ event, MadeOf (String.ofList (wideText 2500)) event →
        event.message = String.ofList (wideText 2499) ++ "..." := by
  have hlong : byteLength (wideText 2500) = Limits.messageLength + 1 := byteLength_wideText 2500
  have hfront : byteLength (wideText 2499) + 3 = Limits.messageLength := by
    rw [byteLength_wideText]
    rfl
  refine ⟨hlong, hfront, ?_⟩
  obtain ⟨kept, -, hkeptOf, hevents⟩ := message_shortened (String.ofList (wideText 2500))
  have htext : wideText 2500 = wideText 2499 ++ ['😀'] := by
    rw [wideText, wideText, List.replicate_succ', List.cons_append]
  have hlongest : IsLongestFront Limits.messageLength (wideText 2500) (wideText 2499) := by
    rw [htext]
    apply isLongestFront_append
    · omega
    · have hsize : '😀'.utf8Size = 4 := rfl
      omega
  obtain ⟨front, hkept, -, heq⟩ := hkeptOf.front (by
    rw [← byteLength_toList, String.toList_ofList]
    omega)
  rw [String.toList_ofList] at hkept
  intro event h
  rw [hevents event h, heq, hkept.unique hlongest]

end Diagnostics.Event
end LineLexer
