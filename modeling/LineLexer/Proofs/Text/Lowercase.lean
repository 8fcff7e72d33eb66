import LineLexer.Text.Lowercase
import Mathlib.Data.List.Basic

/-!
# Small letters

A small letter has no smaller one (`lowerChar_of_mem_lowerFrom`), and for the characters of ASCII the
two ways to make a text small are one (`lowerChar_of_ascii`). So a text that becomes a small one when
its ASCII capitals are made small differs from it in case only (`lowercase_of_sameAscii`), and both
ways do the same to a text just if all its capitals are ASCII (`lowercaseAscii_eq_lowercase_iff`).
-/

namespace LineLexer.Text

theorem toList_lowercaseAscii (text : String) :
    (lowercaseAscii text).toList = text.toList.map Char.toLower :=
  String.toList_ofList

theorem toList_lowercase (text : String) : (lowercase text).toList = lowerFrom [] text.toList :=
  String.toList_ofList

/-- Letters outside ASCII are left alone. -/
theorem toLower_of_not_ascii {c : Char} (h : 128 ≤ c.toNat) : c.toLower = c := by
  refine dif_neg fun hcapital => ?_
  have hle : c.toNat ≤ 90 := UInt32.le_iff_toNat_le.mp hcapital.2
  omega

theorem toLower_toLower (c : Char) : c.toLower.toLower = c.toLower := by
  by_cases h : 128 ≤ c.toNat
  · rw [toLower_of_not_ascii h, toLower_of_not_ascii h]
  · have hascii : ∀ code < 128,
        (Char.ofNat code).toLower.toLower = (Char.ofNat code).toLower := by
      decide
    have hc := hascii c.toNat (Nat.lt_of_not_le h)
    rwa [Char.ofNat_toNat] at hc

theorem lowercaseAscii_idem (text : String) :
    lowercaseAscii (lowercaseAscii text) = lowercaseAscii text := by
  rw [lowercaseAscii, toList_lowercaseAscii, List.map_map, lowercaseAscii]
  exact congrArg String.ofList (List.map_congr_left fun c _ => toLower_toLower c)

/-! ## Runs of capitals -/

namespace CapitalRun

/-- The code of the first small letter. -/
def image (run : CapitalRun) : Nat := (Int.ofNat run.first + run.distance).toNat

/-- The small letters keep the steps of their capitals. -/
theorem exists_of_small? {run : CapitalRun} (himage : 0 ≤ Int.ofNat run.first + run.distance)
    {code small : Nat} (h : run.small? code = some small) :
    ∃ index < run.count, small = run.image + index * run.step := by
  rw [small?] at h
  split at h
  · rename_i hcode
    rw [Bool.and_eq_true, Bool.and_eq_true, decide_eq_true_iff, decide_eq_true_iff,
      decide_eq_true_iff] at hcode
    obtain ⟨⟨hle, hmod⟩, hcount⟩ := hcode
    refine ⟨(code - run.first) / run.step, hcount, ?_⟩
    have hsteps : (code - run.first) / run.step * run.step = code - run.first :=
      Nat.div_mul_cancel (Nat.dvd_of_mod_eq_zero hmod)
    cases h
    rw [hsteps, image]
    simp only [Int.ofNat_eq_natCast] at himage ⊢
    omega
  · cases h

theorem small?_of_lt {run : CapitalRun} {code : Nat} (h : code < run.first) :
    run.small? code = none := by
  rw [small?, if_neg]
  simp [Nat.not_le.mpr h]

/-- No small letter of a run is a capital of another one: they stand in front of its capitals, or
behind them, or between them. -/
def apart (run run' : CapitalRun) : Bool :=
  Nat.blt (run.image + (run.count - 1) * run.step) run'.first
    || Nat.blt (run'.first + (run'.count - 1) * run'.step) run.image
    || (Nat.beq run'.step 2 && (Nat.beq run.step 2 || Nat.beq run.count 1)
      && Nat.beq ((run.image + run'.first) % 2) 1)

theorem small?_of_apart {run run' : CapitalRun} (h : run.apart run' = true) {index : Nat}
    (hindex : index < run.count) : run'.small? (run.image + index * run.step) = none := by
  have hspan : index * run.step ≤ (run.count - 1) * run.step :=
    Nat.mul_le_mul_right _ (Nat.le_pred_of_lt hindex)
  rw [small?, if_neg]
  intro hcode
  rw [Bool.and_eq_true, Bool.and_eq_true, decide_eq_true_iff, decide_eq_true_iff,
    decide_eq_true_iff] at hcode
  obtain ⟨⟨hle, hmod⟩, hcount⟩ := hcode
  have hsteps := Nat.div_mul_cancel (Nat.dvd_of_mod_eq_zero hmod)
  have hspan' := Nat.mul_le_mul_right run'.step (Nat.le_pred_of_lt hcount)
  rw [hsteps, Nat.pred_eq_sub_one] at hspan'
  rw [apart, Bool.or_eq_true, Bool.or_eq_true, Bool.and_eq_true, Bool.and_eq_true, Bool.or_eq_true,
    Nat.blt_eq, Nat.blt_eq, Nat.beq_eq, Nat.beq_eq, Nat.beq_eq, Nat.beq_eq] at h
  obtain (hfront | hbehind) | ⟨⟨htwo, hstep⟩, hodd⟩ := h
  · omega
  · omega
  · -- the capitals stand at every other code, and the small letters at codes between
    rw [htwo] at hmod
    obtain hstep | hcount := hstep
    · rw [hstep] at hmod hle
      omega
    · have hzero : index = 0 := by omega
      rw [hzero, Nat.zero_mul] at hmod hle
      omega

end CapitalRun

/-! ## The table of capitals -/

/-- The dotted capital I, as a run of its own. -/
def dottedCapital : CapitalRun := ⟨0x130, 1, 1, 0⟩

theorem images_nonneg : ∀ run ∈ capitals, 0 ≤ Int.ofNat run.first + run.distance := by
  decide +kernel

theorem capitals_apart :
    (capitals.all fun run => (dottedCapital :: capitals).all run.apart) = true := by
  decide +kernel

/-- The capitals of ASCII are a run of their own, in front of all others. -/
theorem capitals_eq : ∃ rest, capitals = ⟨0x41, 26, 1, 32⟩ :: rest ∧ ∀ run ∈ rest, 128 ≤ run.first :=
  ⟨capitals.tail, rfl, by decide +kernel⟩

/-- The code of a small letter is that of no capital. -/
theorem findSome?_capitals_of_small {code small : Nat}
    (h : capitals.findSome? (·.small? code) = some small) :
    small ≠ 0x130 ∧ capitals.findSome? (·.small? small) = none := by
  obtain ⟨run, hrun, hsmall⟩ := List.exists_of_findSome?_eq_some h
  obtain ⟨index, hindex, rfl⟩ := CapitalRun.exists_of_small? (images_nonneg run hrun) hsmall
  have hapart : ∀ run' ∈ dottedCapital :: capitals, run.apart run' = true :=
    List.all_eq_true.mp (List.all_eq_true.mp capitals_apart run hrun)
  have hnone : ∀ run' ∈ dottedCapital :: capitals,
      run'.small? (run.image + index * run.step) = none :=
    fun run' hrun' => CapitalRun.small?_of_apart (hapart run' hrun') hindex
  refine ⟨fun heq => ?_, List.findSome?_eq_none_iff.mpr fun run' hrun' =>
    hnone run' (List.mem_cons_of_mem _ hrun')⟩
  have hdotted := hnone dottedCapital List.mem_cons_self
  rw [heq] at hdotted
  exact absurd hdotted (by decide)

/-! ## Characters -/

/-- Some characters that are small: those that the dotted capital I and the sigma become, and the one
that stands for codes of no character. -/
theorem lowerChar_small : ∀ c ∈ ['i', '\u0307', '\x00', 'ς', 'σ'], lowerChar c = [c] := by
  simp only [List.forall_mem_cons]
  refine ⟨?_, ?_, ?_, ?_, ?_, List.forall_mem_nil _⟩
  all_goals rfl

/-- What a character of ASCII becomes is the same in both ways. -/
theorem lowerChar_of_ascii {c : Char} (h : c.toNat < 128) : lowerChar c = [c.toLower] := by
  obtain ⟨rest, hcapitals, hrest⟩ := capitals_eq
  have hnone : rest.findSome? (·.small? c.toNat) = none :=
    List.findSome?_eq_none_iff.mpr fun run hrun =>
      CapitalRun.small?_of_lt (Nat.lt_of_lt_of_le h (hrest run hrun))
  have hfirst : ∀ code < 128,
      ((CapitalRun.small? ⟨0x41, 26, 1, 32⟩ code).map Char.ofNat).getD (Char.ofNat code)
        = (Char.ofNat code).toLower := by decide +kernel
  have hchar := hfirst c.toNat h
  rw [Char.ofNat_toNat] at hchar
  rw [← hchar, lowerChar, if_neg (by rintro rfl; exact absurd h (by decide)), hcapitals,
    List.findSome?_cons, hnone]
  cases CapitalRun.small? ⟨0x41, 26, 1, 32⟩ c.toNat <;> rfl

/-- A character that small letters are made of is small. -/
theorem lowerChar_of_mem_lowerChar {c d : Char} (h : d ∈ lowerChar c) : lowerChar d = [d] := by
  rw [lowerChar] at h
  split at h
  · -- the dotted capital I becomes two characters
    refine lowerChar_small d ?_
    simp only [List.mem_cons, List.not_mem_nil, or_false] at h ⊢
    tauto
  · rename_i hdotted
    split at h
    · rename_i code hsome
      obtain ⟨hne, hnone⟩ := findSome?_capitals_of_small hsome
      rw [List.mem_singleton] at h
      by_cases hvalid : code.isValidChar
      · have hcode : d.toNat = code := by
          rw [h, Char.ofNat, dif_pos hvalid]
          rfl
        rw [lowerChar, if_neg (by rintro rfl; exact hne hcode.symm), hcode, hnone]
      · have hnull : d = '\x00' := by
          rw [h, Char.ofNat, dif_neg hvalid]
          rfl
        rw [hnull]
        exact lowerChar_small _ (by decide)
    · rename_i hnone
      rw [List.mem_singleton] at h
      rw [h, lowerChar, if_neg hdotted, hnone]

/-- The sigma is a capital. -/
theorem ne_sigma_of_lowerChar {c : Char} (h : lowerChar c = [c]) : c ≠ 'Σ' := by
  rintro rfl
  have hsigma : lowerChar 'Σ' = ['σ'] := by rfl
  rw [hsigma] at h
  exact absurd h (by decide)

/-! ## Texts -/

variable {before chars : List Char}

/-- Small letters only are in a text that was made small. -/
theorem lowerChar_of_mem_lowerFrom {d : Char} (h : d ∈ lowerFrom before chars) :
    lowerChar d = [d] := by
  induction chars generalizing before with
  | nil => cases h
  | cons c rest ih =>
    rw [lowerFrom, List.mem_append] at h
    obtain h | h := h
    · split at h
      · -- a sigma has two small forms
        have hform : d = 'ς' ∨ d = 'σ' := by
          rw [List.mem_singleton] at h
          rw [h]
          split <;> simp
        refine lowerChar_small d ?_
        obtain rfl | rfl := hform <;> decide
      · exact lowerChar_of_mem_lowerChar h
    · exact ih h

/-- If each character becomes a character, the text becomes these. -/
theorem lowerFrom_eq_map {f : Char → Char} (h : ∀ c ∈ chars, lowerChar c = [f c] ∧ c ≠ 'Σ') :
    lowerFrom before chars = chars.map f := by
  induction chars generalizing before with
  | nil => rfl
  | cons c rest ih =>
    rw [List.forall_mem_cons] at h
    rw [lowerFrom, if_neg h.1.2, h.1.1, ih h.2]
    rfl

theorem toLower_of_small {c : Char} (h : lowerChar c = [c]) : c.toLower = c := by
  by_cases hascii : c.toNat < 128
  · rw [lowerChar_of_ascii hascii] at h
    exact List.singleton_inj.mp h
  · exact toLower_of_not_ascii (Nat.le_of_not_lt hascii)

/-- There are no ASCII capitals in a text that was made small. -/
theorem lowercaseAscii_lowercase (text : String) :
    lowercaseAscii (lowercase text) = lowercase text := by
  rw [lowercaseAscii, toList_lowercase, lowercase]
  have hsmall : ∀ c ∈ lowerFrom [] text.toList, c.toLower = c :=
    fun c hc => toLower_of_small (lowerChar_of_mem_lowerFrom hc)
  exact congrArg String.ofList ((List.map_congr_left hsmall).trans (List.map_id' _))

theorem lowerChar_of_toLower_small {c : Char} (h : lowerChar c.toLower = [c.toLower]) :
    lowerChar c = [c.toLower] ∧ c ≠ 'Σ' := by
  by_cases hascii : c.toNat < 128
  · exact ⟨lowerChar_of_ascii hascii, by rintro rfl; exact absurd hascii (by decide)⟩
  · rw [toLower_of_not_ascii (Nat.le_of_not_lt hascii)] at h ⊢
    exact ⟨h, ne_sigma_of_lowerChar h⟩

/-- A text that becomes a small one when its ASCII capitals are made small differs from it in case
only. -/
theorem lowercase_of_sameAscii {text other : String} (h : lowercaseAscii text = lowercase other) :
    lowercase text = lowercase other := by
  rw [← h, lowercase, lowercaseAscii]
  refine congrArg String.ofList (lowerFrom_eq_map fun c hc => lowerChar_of_toLower_small ?_)
  have hsmall : c.toLower ∈ lowerFrom [] other.toList := by
    rw [← toList_lowercase, ← h, toList_lowercaseAscii]
    exact List.mem_map_of_mem hc
  exact lowerChar_of_mem_lowerFrom hsmall

theorem lowerChar_ne_nil (c : Char) : lowerChar c ≠ [] := by
  rw [lowerChar]
  split
  · exact List.cons_ne_nil _ _
  · split <;> exact List.cons_ne_nil _ _

/-- No character is lost. -/
theorem length_le_lowerFrom : chars.length ≤ (lowerFrom before chars).length := by
  induction chars generalizing before with
  | nil => exact Nat.zero_le _
  | cons c rest ih =>
    rw [lowerFrom, List.length_append, List.length_cons, Nat.add_comm]
    refine Nat.add_le_add (List.length_pos_iff.mpr ?_) ih
    split
    · exact List.cons_ne_nil _ _
    · exact lowerChar_ne_nil c

theorem exists_of_lowerFrom_cons {c d : Char} {rest smaller : List Char}
    (hlength : smaller.length = rest.length)
    (h : lowerFrom before (c :: rest) = d :: smaller) (hsigma : c ≠ 'Σ') :
    lowerChar c = [d] ∧ lowerFrom (c :: before) rest = smaller := by
  rw [lowerFrom, if_neg hsigma] at h
  obtain ⟨first, others, hchars⟩ := List.exists_cons_of_ne_nil (lowerChar_ne_nil c)
  rw [hchars, List.cons_append] at h
  obtain ⟨rfl, hrest⟩ := List.cons.inj h
  have hnil : others = [] := by
    have hle : rest.length ≤ (lowerFrom (c :: before) rest).length := length_le_lowerFrom
    have hsum := congrArg List.length hrest
    rw [List.length_append] at hsum
    exact List.eq_nil_of_length_eq_zero (by omega)
  rw [hnil] at hchars hrest
  exact ⟨hchars, hrest⟩

theorem forall_of_lowerFrom_eq_map (h : lowerFrom before chars = chars.map Char.toLower) :
    ∀ c ∈ chars, c.toNat < 128 ∨ lowerChar c = [c] := by
  induction chars generalizing before with
  | nil => exact List.forall_mem_nil _
  | cons c rest ih =>
    rw [List.map_cons] at h
    have hsmall : lowerChar c.toLower = [c.toLower] :=
      lowerChar_of_mem_lowerFrom (h ▸ List.mem_cons_self)
    obtain ⟨-, hsigma⟩ := lowerChar_of_toLower_small hsmall
    obtain ⟨hchar, hrest⟩ := exists_of_lowerFrom_cons (List.length_map _) h hsigma
    refine List.forall_mem_cons.mpr ⟨?_, ih hrest⟩
    by_cases hascii : c.toNat < 128
    · exact .inl hascii
    · rw [toLower_of_not_ascii (Nat.le_of_not_lt hascii)] at hchar
      exact .inr hchar

/-- Both ways to make a text small do the same just if it has no capitals outside ASCII. -/
theorem lowercaseAscii_eq_lowercase_iff {text : String} :
    lowercaseAscii text = lowercase text ↔
      ∀ c ∈ text.toList, c.toNat < 128 ∨ lowerChar c = [c] := by
  constructor
  · intro h
    have hmap : lowerFrom [] text.toList = text.toList.map Char.toLower := by
      rw [← toList_lowercase, ← h, toList_lowercaseAscii]
    exact forall_of_lowerFrom_eq_map hmap
  · intro h
    rw [lowercaseAscii, lowercase, lowerFrom_eq_map fun c hc => ?_]
    obtain hascii | hsmall := h c hc
    · exact ⟨lowerChar_of_ascii hascii, by rintro rfl; exact absurd hascii (by decide)⟩
    · rw [toLower_of_small hsmall]
      exact ⟨hsmall, ne_sigma_of_lowerChar hsmall⟩

end LineLexer.Text
