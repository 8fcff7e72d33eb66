import LineLexer.Proofs.Datum.Json
import LineLexer.Proofs.Except
import LineLexer.Proofs.SortedMap
import LineLexer.Proofs.Tokenize.Stored
import LineLexer.Tokenize.Token
import LineLexer.Grammar.Document
import Mathlib.Data.List.Nodup

/-!
# Values are read back from their JSON

A record is taken apart into the values that were put under its names, those that are left out too
(`fields_recordOf`), and a number is its digits (`asNat_ofNat`). So each type's decoder undoes its
encoder, from positions up to whole documents (the lemmas `decode_toDatum`); all that they encode has
a form in JSON, so the texts are read back (`readBack_toJson`).
-/

namespace LineLexer.Datum

variable {shape : Shape} {strict : Bool}

/-! ## Records -/

/-- The fields of a record that are given. -/
def given (entries : List (String × Option Datum)) : List (String × Datum) :=
  entries.filterMap fun (name, value) => value.map (name, ·)

theorem sublist_names_given (entries : List (String × Option Datum)) :
    ((given entries).map Prod.fst).Sublist (entries.map Prod.fst) := by
  induction entries with
  | nil => exact .refl _
  | cons entry rest ih =>
    obtain ⟨name, value⟩ := entry
    cases value with
    | none => exact ih.cons name
    | some datum => exact ih.cons_cons name

/-- Under a name stands the value that was put there, or nothing if none was. -/
theorem find?_given {entries : List (String × Option Datum)}
    (hdistinct : (entries.map Prod.fst).Nodup) {name : String} {value : Option Datum}
    (hentry : (name, value) ∈ entries) :
    ((given entries).find? (·.1 == name)).map (·.2) = value := by
  induction entries with
  | nil => exact absurd hentry List.not_mem_nil
  | cons entry rest ih =>
    obtain ⟨first, firstValue⟩ := entry
    rw [List.map_cons, List.nodup_cons] at hdistinct
    rcases List.mem_cons.mp hentry with heq | hrest
    · cases heq
      cases value with
      | some datum => simp [given]
      | none =>
        -- no later entry bears the name
        have hnone : (given rest).find? (·.1 == name) = none := by
          rw [List.find?_eq_none]
          intro field hfield hname
          have hmem := (sublist_names_given rest).subset (List.mem_map_of_mem (f := Prod.fst) hfield)
          rw [beq_iff_eq] at hname
          exact hdistinct.1 (hname ▸ hmem)
        show ((given rest).find? (·.1 == name)).map (·.2) = none
        rw [hnone, Option.map_none]
    · have hne : first ≠ name := by
        rintro rfl
        have hmem := List.mem_map_of_mem (f := Prod.fst) hrest
        exact hdistinct.1 hmem
      cases firstValue with
      | none => exact ih hdistinct.2 hrest
      | some datum =>
        rw [← ih hdistinct.2 hrest]
        simp [given, hne]

/-- A loop that goes on at each item comes to its end. -/
theorem forIn_eq_ok {ε α : Type} {items : List α}
    {body : α → PUnit → Except ε (ForInStep PUnit)}
    (hbody : ∀ item ∈ items, body item ⟨⟩ = .ok (.yield ⟨⟩)) :
    forIn items PUnit.unit body = .ok ⟨⟩ := by
  induction items with
  | nil => rfl
  | cons item rest ih =>
    obtain ⟨hitem, hrest⟩ := List.forall_mem_cons.mp hbody
    rw [List.forIn_cons, hitem]
    exact ih hrest

/-- The values of a record are taken out under their names, those that are not given too. -/
theorem fields_recordOf {names : List String} (values : List (Option Datum))
    (hdistinct : names.Nodup) (hlength : names.length = values.length) :
    fields shape strict names (recordOf (names.zip values)) = .ok values := by
  have hfirst : (names.zip values).map Prod.fst = names := List.map_fst_zip (Nat.le_of_eq hlength)
  have hentries : ((names.zip values).map Prod.fst).Nodup := hfirst.symm ▸ hdistinct
  have hgiven : ((given (names.zip values)).map Prod.fst).Sublist names := by
    have hsublist := sublist_names_given (names.zip values)
    rwa [hfirst] at hsublist
  show fields shape strict names (.record (given (names.zip values))) = _
  rw [fields, forIn_eq_ok]
  · have hfind : names.map (fun name => ((given (names.zip values)).find? (·.1 == name)).map (·.2))
        = values := by
      calc _ = (names.zip values).map fun entry =>
              ((given (names.zip values)).find? (·.1 == entry.1)).map (·.2) := by
            conv_lhs => rw [← hfirst]
            rw [List.map_map, hfirst]
            rfl
        _ = (names.zip values).map Prod.snd :=
            List.map_congr_left fun entry hentry => find?_given hentries hentry
        _ = values := List.map_snd_zip (Nat.le_of_eq hlength.symm)
    exact congrArg Except.ok hfind
  · -- each field that is given is one of the names, and given once
    rintro ⟨name, datum⟩ hfield
    have hmem : name ∈ (given (names.zip values)).map Prod.fst :=
      List.mem_map_of_mem (f := Prod.fst) hfield
    have honce : ¬1 < ((given (names.zip values)).filter (·.1 == name)).length := by
      have hcount := List.nodup_iff_count_le_one.mp (hdistinct.sublist hgiven) name
      rw [List.count, List.countP_map, List.countP_eq_length_filter] at hcount
      exact Nat.not_lt.mpr hcount
    dsimp only
    rw [if_pos (List.contains_iff_mem.mpr (hgiven.subset hmem)), if_neg honce]
    rfl

theorem plain_recordOf {entries : List (String × Option Datum)}
    (h : ∀ entry ∈ entries, ∀ datum ∈ entry.2, Json.Plain datum) : Json.Plain (recordOf entries) := by
  refine .record fun field hfield => ?_
  obtain ⟨⟨name, value⟩, hentry, hvalue⟩ := List.mem_filterMap.mp hfield
  obtain ⟨datum, hdatum, rfl⟩ := Option.map_eq_some_iff.mp hvalue
  exact h _ hentry datum hdatum

/-! ## Numbers and texts -/

/-- A number below the bound is read from its digits. -/
theorem asNat_ofNat {n bound : Nat} (h : n < bound) : asNat bound (.ofNat n) = .ok n := by
  obtain ⟨c, digits, heq⟩ := List.exists_cons_of_ne_nil (Nat.toDigits_ne_nil (b := 10) (n := n))
  have hdigits : (c :: digits).all Char.isDigit = true :=
    List.all_eq_true.mpr fun d hd => Json.isDigit_toDigits n d (heq ▸ hd)
  have hvalue : (c :: digits).foldl (fun value c => 10 * value + (c.toNat - '0'.toNat)) 0 = n := by
    rw [← heq, ← Nat.ofDigitChars_eq_foldl, Nat.ofDigitChars_ten_toDigits]
  rw [ofNat, asNat, Json.toList_toString, heq]
  dsimp only
  rw [hdigits, hvalue, if_pos h]
  rfl

theorem asOption_textOrNull (text : Option String) :
    asOption asText (textOrNull text) = .ok text := by
  cases text <;> rfl

theorem plain_textOrNull (text : Option String) : Json.Plain (textOrNull text) := by
  cases text with
  | none => exact .null
  | some text => exact .text text

end LineLexer.Datum

namespace LineLexer

open Datum

/-! ## Positions, spans and tokens -/

namespace Position

theorem decode_toDatum {pos : Position} (h : pos.Fits) : decode pos.toDatum = .ok pos := by
  obtain ⟨hoffset, hline, hcolumn⟩ := h
  have hrecord : pos.toDatum = recordOf (["offset", "line", "column"].zip
      [some (.ofNat pos.offset), some (.ofNat pos.line), some (.ofNat pos.column)]) := rfl
  rw [decode, hrecord, fields_recordOf _ (by decide) rfl]
  show (asNat Limits.wordSize (.ofNat pos.offset) >>= _) = _
  rw [asNat_ofNat hoffset]
  show (asNat Limits.numberSize (.ofNat pos.line) >>= _) = _
  rw [asNat_ofNat hline]
  show (asNat Limits.numberSize (.ofNat pos.column) >>= _) = _
  rw [asNat_ofNat hcolumn]
  rfl

theorem plain_toDatum (pos : Position) : Json.Plain pos.toDatum := by
  refine .record ?_
  simp only [List.forall_mem_cons]
  exact ⟨.number _, .number _, .number _, List.forall_mem_nil _⟩

end Position

namespace Span

/-- Both ends of the span are within their bounds. -/
def Fits (span : Span) : Prop := span.start.Fits ∧ span.stop.Fits

instance (span : Span) : Decidable span.Fits := inferInstanceAs (Decidable (_ ∧ _))

theorem decode_toDatum {span : Span} (h : span.Fits) : decode span.toDatum = .ok span := by
  have hrecord : span.toDatum = recordOf (["start", "end"].zip
      [some span.start.toDatum, some span.stop.toDatum]) := rfl
  rw [decode, hrecord, fields_recordOf _ (by decide) rfl]
  show (Position.decode span.start.toDatum >>= _) = _
  rw [Position.decode_toDatum h.1]
  show (Position.decode span.stop.toDatum >>= _) = _
  rw [Position.decode_toDatum h.2]
  rfl

theorem plain_toDatum (span : Span) : Json.Plain span.toDatum := by
  refine .record ?_
  simp only [List.forall_mem_cons]
  exact ⟨span.start.plain_toDatum, span.stop.plain_toDatum, List.forall_mem_nil _⟩

end Span

namespace Token

/-- What stands in a token's record. -/
theorem toDatum_eq (token : Token) : token.toDatum = recordOf (["span", "kind", "bracket"].zip
    [some token.span.toDatum, some (.text token.kind),
      token.bracket.map fun side => .text side.name]) := rfl

theorem decode_toDatum {token : Token} (h : token.span.Fits) :
    decode token.toDatum = .ok token := by
  rw [decode, toDatum_eq, fields_recordOf _ (by decide) rfl]
  show (Span.decode token.span.toDatum >>= _) = _
  rw [Span.decode_toDatum h]
  obtain ⟨span, kind, bracket⟩ := token
  -- a side is read from its name, and none where the field is left out
  cases bracket with
  | none => rfl
  | some side => cases side <;> rfl

theorem plain_toDatum (token : Token) : Json.Plain token.toDatum := by
  rw [toDatum]
  refine plain_recordOf ?_
  simp only [List.forall_mem_cons, Option.mem_some_iff, forall_eq']
  refine ⟨token.span.plain_toDatum, .text _, fun datum hside => ?_, List.forall_mem_nil _⟩
  obtain ⟨side, -, rfl⟩ := Option.map_eq_some_iff.mp hside
  exact .text _

end Token

/-! ## Documents -/

section Documents

variable {shape : Shape}

theorem Next.decode_toDatum (next : Next) : decode shape next.toDatum = .ok next := by
  cases next <;> rfl

theorem Next.plain_toDatum (next : Next) : Json.Plain next.toDatum := by
  cases next with
  | push state =>
    refine .record ?_
    simp only [List.forall_mem_cons]
    exact ⟨.text state, List.forall_mem_nil _⟩
  | stay => exact .text _
  | pop => exact .text _
  | popAll => exact .text _

theorem BracketEntry.decode_toDatum (entry : BracketEntry) :
    decode shape entry.toDatum = .ok entry := by
  have hrecord : entry.toDatum = recordOf (["open", "close", "token"].zip
      [some (.text entry.opening), some (.text entry.closing), some (.text entry.token)]) := rfl
  rw [decode, hrecord, fields_recordOf _ (by decide) rfl]
  rfl

theorem BracketEntry.plain_toDatum (entry : BracketEntry) : Json.Plain entry.toDatum := by
  refine .record ?_
  simp only [List.forall_mem_cons]
  exact ⟨.text _, .text _, .text _, List.forall_mem_nil _⟩

namespace RuleEntry

theorem decode_toDatum (entry : RuleEntry) : decode shape entry.toDatum = .ok entry := by
  have hrecord : entry.toDatum = recordOf (["pattern", "token", "brackets", "next", "ignore_case"].zip
      [some (.text entry.pattern), some (textOrNull entry.token), some (.boolean entry.brackets),
        some entry.next.toDatum, some ((entry.ignoreCase.map .boolean).getD .null)]) := rfl
  rw [decode, hrecord, fields_recordOf _ (by decide) rfl]
  show (asOption asText (textOrNull entry.token) >>= _) = _
  rw [asOption_textOrNull]
  show (Next.decode shape entry.next.toDatum >>= _) = _
  rw [Next.decode_toDatum]
  obtain ⟨pattern, token, brackets, next, ignoreCase⟩ := entry
  cases ignoreCase <;> rfl

theorem plain_toDatum (entry : RuleEntry) : Json.Plain entry.toDatum := by
  have hcase : Json.Plain ((entry.ignoreCase.map Datum.boolean).getD .null) := by
    cases entry.ignoreCase with
    | none => exact .null
    | some value => exact .boolean value
  refine .record ?_
  simp only [List.forall_mem_cons]
  exact ⟨.text _, plain_textOrNull _, .boolean _, entry.next.plain_toDatum, hcase,
    List.forall_mem_nil _⟩

end RuleEntry

namespace GrammarDocument

/-- The states of a document as data. -/
def statesDatum (states : SortedMap String (List RuleEntry)) : Datum :=
  .record (states.entries.map fun (name, rules) => (name, .list (rules.map RuleEntry.toDatum)))

theorem decodeStates_statesDatum (states : SortedMap String (List RuleEntry)) :
    decodeStates shape (statesDatum states) = .ok states := by
  have hrules (rules : List RuleEntry) :
      decodeRules shape (.list (rules.map RuleEntry.toDatum)) = .ok rules :=
    mapM_map_eq_self RuleEntry.decode_toDatum rules
  rw [decodeStates]
  refine bind_eq_ok.mpr ⟨_, rfl, bind_eq_ok.mpr ⟨states.entries, ?entries, ?states⟩⟩
  case entries =>
    refine mapM_map_eq_self ?_ _
    rintro ⟨name, rules⟩
    show (decodeRules shape (.list (rules.map RuleEntry.toDatum)) >>= _) = _
    rw [hrules]
    rfl
  case states => exact congrArg Except.ok states.ofList_entries

/-- In both formats, a document is what its data are decoded to. -/
theorem decode_toDatum (document : GrammarDocument) :
    decode shape document.toDatum = .ok document := by
  obtain ⟨name, initial, defaultToken, ignoreCase, brackets, states⟩ := document
  have hrecord : toDatum ⟨name, initial, defaultToken, ignoreCase, brackets, states⟩
      = recordOf (["name", "initial", "default_token", "ignore_case", "brackets", "states"].zip
        [some (textOrNull name), some (.text initial), some (textOrNull defaultToken),
          some (.boolean ignoreCase), some (.list (brackets.map BracketEntry.toDatum)),
          some (statesDatum states)]) := rfl
  rw [decode, hrecord, fields_recordOf _ (by decide) rfl]
  show (asOption asText (textOrNull name) >>= _) = _
  rw [asOption_textOrNull]
  show (asOption asText (textOrNull defaultToken) >>= _) = _
  rw [asOption_textOrNull]
  show ((brackets.map BracketEntry.toDatum).mapM (BracketEntry.decode shape) >>= _) = _
  rw [mapM_map_eq_self BracketEntry.decode_toDatum]
  show (decodeStates shape (statesDatum states) >>= _) = _
  rw [decodeStates_statesDatum]
  rfl

theorem plain_toDatum (document : GrammarDocument) : Json.Plain document.toDatum := by
  have hstates : Json.Plain (statesDatum document.states) := by
    refine .record fun field hfield => ?_
    obtain ⟨⟨name, rules⟩, -, rfl⟩ := List.mem_map.mp hfield
    exact Json.Plain.ofMap RuleEntry.plain_toDatum rules
  refine .record ?_
  simp only [List.forall_mem_cons]
  exact ⟨plain_textOrNull _, .text _, plain_textOrNull _, .boolean _,
    Json.Plain.ofMap BracketEntry.plain_toDatum _, hstates, List.forall_mem_nil _⟩

/-- A document is what is read from its own text. -/
theorem ofJson_toJson (document : GrammarDocument) : ofJson document.toJson = .ok document := by
  rw [ofJson, toJson, Json.parse_compact document.plain_toDatum]
  show (decode .json document.toDatum).mapError _ = _
  rw [decode_toDatum]
  rfl

end GrammarDocument

end Documents

/-! ## Texts -/

/-- The value that a JSON text holds, if it holds one. -/
def Json.read? {α : Type} (decode : Datum → Except DecodeError α) (text : String) : Option α :=
  match Json.parse text with
  | .ok datum => (decode datum).toOption
  | .error _ => none

theorem Json.read?_compact {α : Type} {decode : Datum → Except DecodeError α} {datum : Datum}
    (hplain : Json.Plain datum) {value : α} (h : decode datum = .ok value) :
    Json.read? decode (Json.compact datum) = some value := by
  rw [Json.read?, Json.parse_compact hplain]
  show (decode datum).toOption = _
  rw [h]
  rfl

/-- A token as a JSON text. -/
def Token.toJson (token : Token) : String := Json.compact token.toDatum

/-- The token that a JSON text holds, if it holds one. -/
def Token.ofJson? (text : String) : Option Token := Json.read? Token.decode text

/-- A span as a JSON text. -/
def Span.toJson (span : Span) : String := Json.compact span.toDatum

/-- The span that a JSON text holds, if it holds one. -/
def Span.ofJson? (text : String) : Option Span := Json.read? Span.decode text

/-- The text of a token has the field `bracket` if the token is a bracket. -/
theorem Token.exists_parse_toJson (token : Token) :
    ∃ fields, Json.parse token.toJson = .ok (.record fields) ∧
      ("bracket" ∈ fields.map Prod.fst ↔ token.bracket ≠ none) := by
  refine ⟨_, Json.parse_compact token.plain_toDatum, ?_⟩
  obtain ⟨span, kind, bracket⟩ := token
  cases bracket <;> simp

/-- Values are read back from their texts: documents and stacks whatever they hold, tokens and spans
if their numbers are within the bounds of their fields. In the text of a token that is no bracket the
field is left out. -/
theorem readBack_toJson :
    (∀ document : GrammarDocument, GrammarDocument.ofJson document.toJson = .ok document) ∧
    (∀ token : Token, token.span.Fits →
      Token.ofJson? token.toJson = some token ∧
      ∃ fields, Json.parse token.toJson = .ok (.record fields) ∧
        ("bracket" ∈ fields.map Prod.fst ↔ token.bracket ≠ none)) ∧
    (∀ stack : StateStack, StateStack.ofJson? stack.toJson = some stack) ∧
    ∀ span : Span, span.Fits → Span.ofJson? span.toJson = some span :=
  ⟨GrammarDocument.ofJson_toJson,
    fun token hfits => ⟨Json.read?_compact token.plain_toDatum (Token.decode_toDatum hfits),
      token.exists_parse_toJson⟩,
    StateStack.ofJson?_toJson,
    fun span hfits => Json.read?_compact span.plain_toDatum (Span.decode_toDatum hfits)⟩

/-- A closing bracket at the last place that there is. -/
def lastToken : Token where
  span := ⟨⟨0, 1, 1⟩, ⟨Limits.wordSize - 1, Limits.numberSize - 1, Limits.numberSize - 1⟩⟩
  kind := "\"\\\n\u0001é"
  bracket := some .closing

theorem readBack_lastToken :
    lastToken.span.Fits ∧ Token.ofJson? lastToken.toJson = some lastToken ∧
      Span.ofJson? lastToken.span.toJson = some lastToken.span := by
  have hfits : lastToken.span.Fits := by decide
  exact ⟨hfits, (readBack_toJson.2.1 lastToken hfits).1, readBack_toJson.2.2.2 lastToken.span hfits⟩

end LineLexer
