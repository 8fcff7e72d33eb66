/-!
# Bytes of a text

Offsets into a text count the bytes of its encoding. A cut is possible only between characters.
-/

namespace LineLexer.Text

/-- The number of bytes that encode the characters. -/
def byteLength (text : List Char) : Nat := text.foldl (fun length c => length + c.utf8Size) 0

/-- Goes on with a cut: `count` more bytes go to the characters `taken`, the last one first. -/
def splitBytesFrom : (taken : List Char) → (count : Nat) → List Char →
    Option (List Char × List Char)
  | taken, 0, text => some (taken.reverse, text)
  | _, _ + 1, [] => none
  | taken, count + 1, c :: rest =>
    if c.utf8Size ≤ count + 1 then splitBytesFrom (c :: taken) (count + 1 - c.utf8Size) rest
    else none

/-- Cuts the text behind its first `count` bytes, unless that is inside a character or past its
end. -/
def splitBytes (count : Nat) (text : List Char) : Option (List Char × List Char) :=
  splitBytesFrom [] count text

/-- The characters between two byte offsets. -/
def sliceBytes (start stop : Nat) (text : List Char) : Option (List Char) :=
  if stop < start then none
  else do
    let (_, back) ← splitBytes start text
    let (middle, _) ← splitBytes (stop - start) back
    return middle

/-- The longest front of the text that has at most `limit` bytes. -/
def frontWithin (limit : Nat) : List Char → List Char
  | [] => []
  | c :: rest => if c.utf8Size ≤ limit then c :: frontWithin (limit - c.utf8Size) rest else []

/-! ## Lengths -/

@[simp] theorem byteLength_nil : byteLength [] = 0 := rfl

theorem byteLength_foldl (text : List Char) (length : Nat) :
    text.foldl (fun length c => length + c.utf8Size) length = length + byteLength text := by
  induction text generalizing length with
  | nil => rfl
  | cons c rest ih =>
    rw [byteLength, List.foldl_cons, List.foldl_cons, ih, ih (0 + c.utf8Size)]
    omega

@[simp] theorem byteLength_cons (c : Char) (rest : List Char) :
    byteLength (c :: rest) = c.utf8Size + byteLength rest := by
  rw [byteLength, List.foldl_cons, byteLength_foldl]
  omega

@[simp] theorem byteLength_append (a b : List Char) :
    byteLength (a ++ b) = byteLength a + byteLength b := by
  induction a with
  | nil => simp
  | cons c rest ih => simp [ih, Nat.add_assoc]

/-- The characters of a string take as many bytes as the string. -/
theorem byteLength_toList (s : String) : byteLength s.toList = s.utf8ByteSize := by
  have h (text : List Char) : (String.ofList text).utf8ByteSize = byteLength text := by
    induction text with
    | nil => rfl
    | cons c rest ih =>
      rw [String.ofList_cons, String.utf8ByteSize_append, String.utf8ByteSize_singleton, ih,
        byteLength_cons]
  rw [← h, String.ofList_toList]

theorem length_le_byteLength (text : List Char) : text.length ≤ byteLength text := by
  induction text with
  | nil => exact Nat.le_refl 0
  | cons c rest ih =>
    have hc := c.utf8Size_pos
    rw [List.length_cons, byteLength_cons]
    omega

theorem byteLength_pos {text : List Char} (h : text ≠ []) : 0 < byteLength text :=
  Nat.lt_of_lt_of_le (List.length_pos_iff.mpr h) (length_le_byteLength text)

/-! ## Cuts -/

/-- A cut loses nothing, and its front gets the bytes asked for. -/
theorem splitBytesFrom_eq_some {taken : List Char} {count : Nat} {text front back : List Char}
    (h : splitBytesFrom taken count text = some (front, back)) :
    taken.reverse ++ text = front ++ back ∧
      byteLength front = byteLength taken.reverse + count := by
  induction text generalizing taken count with
  | nil =>
    cases count with
    | zero => simp_all [splitBytesFrom]
    | succ n => simp [splitBytesFrom] at h
  | cons c rest ih =>
    cases count with
    | zero => simp_all [splitBytesFrom]
    | succ n =>
      rw [splitBytesFrom] at h
      split at h
      · rename_i hle
        obtain ⟨hrest, hlength⟩ := ih h
        refine ⟨by simpa using hrest, ?_⟩
        simp at hlength
        omega
      · simp at h

theorem splitBytes_eq_some {count : Nat} {text front back : List Char}
    (h : splitBytes count text = some (front, back)) :
    text = front ++ back ∧ byteLength front = count := by
  simpa using splitBytesFrom_eq_some h

theorem splitBytesFrom_append (taken front back : List Char) :
    splitBytesFrom taken (byteLength front) (front ++ back) = some (taken.reverse ++ front, back) := by
  induction front generalizing taken with
  | nil => simp [splitBytesFrom]
  | cons c front ih =>
    obtain ⟨n, hn⟩ : ∃ n, c.utf8Size = n + 1 := ⟨_, (Nat.succ_pred_eq_of_pos c.utf8Size_pos).symm⟩
    rw [byteLength_cons, hn, Nat.add_right_comm, List.cons_append, splitBytesFrom, hn,
      if_pos (by omega), show n + byteLength front + 1 - (n + 1) = byteLength front by omega, ih]
    simp

/-- A text is cut behind each of its fronts. -/
theorem splitBytes_append (front back : List Char) :
    splitBytes (byteLength front) (front ++ back) = some (front, back) :=
  splitBytesFrom_append [] front back

/-- Two fronts of a text with the same number of bytes are the same front. -/
theorem eq_of_byteLength {front back front' back' : List Char}
    (h : front ++ back = front' ++ back') (hlength : byteLength front = byteLength front') :
    front = front' ∧ back = back' := by
  have hcut := splitBytes_append front back
  rw [h, hlength, splitBytes_append, Option.some_inj, Prod.mk.injEq] at hcut
  exact ⟨hcut.1.symm, hcut.2.symm⟩

theorem sliceBytes_append (front middle back : List Char) :
    sliceBytes (byteLength front) (byteLength front + byteLength middle)
      (front ++ (middle ++ back)) = some middle := by
  rw [sliceBytes, if_neg (by omega), splitBytes_append, Nat.add_sub_cancel_left]
  simp [splitBytes_append]

end LineLexer.Text
