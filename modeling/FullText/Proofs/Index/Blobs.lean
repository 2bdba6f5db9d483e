import FullText.Proofs.Index.Vectors
import FullText.Proofs.Number.Widening

/-!
# Vectors as they are read back

A vector is written without any marks between its elements, so it is read back by cutting the bytes
into words of the width of an element, which is for the field to say.  A reader that knows this
width gets the elements that were written (`readWords_flatMap`): of a field with elements of 64
bits they are the elements of the vector after widening, of any other field they are the elements
themselves.

Widening keeps numbers apart, so two vectors of numbers that are written to one field are never
written the same (`DocumentValue.vector_reads_back`).
-/

namespace FullText

/-! ### Words -/

/-- The number whose bytes are given, the lowest first. -/
def ofLittleEndian (bytes : List UInt8) : ℕ :=
  bytes.foldr (fun b n => b.toNat + 256 * n) 0

/-- The bytes cut into words of a width, each as a number.  Bytes that are left over at the end are
not read. -/
def readWords (width : ℕ) (bytes : List UInt8) : List ℕ :=
  (List.range (bytes.length / width)).map fun i =>
    ofLittleEndian ((bytes.drop (width * i)).take width)

/-- Bytes as values of 32 bits. -/
def readSingles (bytes : List UInt8) : List Binary32 :=
  (readWords 4 bytes).map fun n => ⟨UInt32.ofNat n⟩

/-- Bytes as values of 64 bits. -/
def readDoubles (bytes : List UInt8) : List Binary64 :=
  (readWords 8 bytes).map fun n => ⟨UInt64.ofNat n⟩

/-- The lowest bytes of a number are read as what they can hold of it. -/
theorem ofLittleEndian_littleEndian (width n : ℕ) :
  ofLittleEndian (littleEndian width n) = n % 256 ^ width
  := by
  induction width generalizing n with
  | zero => rw [Nat.pow_zero, Nat.mod_one]; rfl
  | succ width ih =>
    have hbyte : (UInt8.ofNat n).toNat = n % 256 := UInt8.toNat_ofNat'
    rw [littleEndian, ofLittleEndian, List.foldr_cons, ← ofLittleEndian, ih, hbyte,
      Nat.pow_succ', Nat.mod_mul]

/-- Among items of one width, each is in its place. -/
theorem take_drop_flatMap {α β : Type} {width : ℕ} {write : α → List β}
    (hwidth : ∀ a, (write a).length = width) (items : List α) (i : ℕ) (hi : i < items.length) :
  ((items.flatMap write).drop (width * i)).take width = write items[i]
  := by
  induction items generalizing i with
  | nil => cases hi
  | cons a items ih =>
    rw [List.flatMap_cons]
    cases i with
    | zero =>
      rw [Nat.mul_zero, List.drop_zero, List.take_left' (hwidth a)]
      rfl
    | succ i =>
      have hplace : width * (i + 1) = (write a).length + width * i := by
        rw [hwidth, Nat.mul_succ, Nat.add_comm]
      rw [hplace, List.drop_length_add_append, ih i (Nat.lt_of_succ_lt_succ hi)]
      rfl

/-- Words are read as they were written, one for each item. -/
theorem readWords_flatMap {α : Type} {width : ℕ} (hpos : 0 < width) {word : α → ℕ}
    (hword : ∀ a, word a < 256 ^ width) (items : List α) :
  readWords width (items.flatMap fun a => littleEndian width (word a)) = items.map word
  := by
  have hwidth (a : α) : (littleEndian width (word a)).length = width := length_littleEndian width _
  apply List.ext_getElem
  · rw [readWords, List.length_map, List.length_range, length_flatMap_of_width hwidth,
      Nat.mul_div_cancel_left _ hpos, List.length_map]
  · intro i _ hi
    rw [List.length_map] at hi
    simp only [readWords, List.getElem_map, List.getElem_range, take_drop_flatMap hwidth items i hi]
    rw [ofLittleEndian_littleEndian, Nat.mod_eq_of_lt (hword _)]

/-! ### Elements -/

/-- A vector is read back from the bytes of its elements. -/
theorem readSingles_vectorBlob (v : List Binary32) :
  readSingles (vectorBlob v) = v
  := by
  have hwords : readWords 4 (vectorBlob v) = v.map fun x => x.bits.toNat :=
    readWords_flatMap (by decide) (fun x => x.bits.toNat_lt) v
  rw [readSingles, hwords, List.map_map]
  apply List.map_id''
  intro x
  rw [Function.comp_apply, UInt32.ofNat_toNat]

/-- From the bytes of the widened elements it is these that are read. -/
theorem readDoubles_wideVectorBlob (v : List Binary32) :
  readDoubles (wideVectorBlob v) = v.map Binary32.widen
  := by
  have hwords : readWords 8 (wideVectorBlob v) = v.map fun x => x.widen.bits.toNat :=
    readWords_flatMap (by decide) (fun x => x.widen.bits.toNat_lt) v
  rw [readDoubles, hwords, List.map_map]
  apply List.map_congr_left
  intro x _
  rw [Function.comp_apply, UInt64.ofNat_toNat]

theorem vectorBlob_injective :
  Function.Injective vectorBlob
  := by
  intro v w h
  rw [← readSingles_vectorBlob v, h, readSingles_vectorBlob]

/-- Vectors of numbers are told apart by their widened elements. -/
theorem eq_of_wideVectorBlob_eq {v w : List Binary32} (hnumbers : ∀ x ∈ v ++ w, x.datum ≠ .nan)
    (h : wideVectorBlob v = wideVectorBlob w) :
  v = w
  := by
  have hwidened : v.map Binary32.widen = w.map Binary32.widen := by
    rw [← readDoubles_wideVectorBlob v, h, readDoubles_wideVectorBlob]
  apply List.ext_getElem
  · have hlength := congrArg List.length hwidened
    rwa [List.length_map, List.length_map] at hlength
  · intro i hv hw
    have hget := congrArg (fun elements => elements[i]?) hwidened
    simp only [List.getElem?_map, List.getElem?_eq_getElem hv, List.getElem?_eq_getElem hw,
      Option.map_some, Option.some_inj] at hget
    exact Binary32.eq_of_widen_eq (hnumbers _ (List.mem_append_left w (List.getElem_mem hv)))
      (hnumbers _ (List.mem_append_right v (List.getElem_mem hw))) hget

/-! ### Fields -/

/-- The field declares vectors with elements of 64 bits. -/
def Field.IsWide (f : Field) : Prop :=
  ∃ o, f.kind = .vector o ∧ o.elementType = .float64

namespace DocumentValue

theorem hashArg_of_isWide {f : Field} (h : f.IsWide) (v : List Binary32) :
  (vector v).hashArg (some f) = .blob (wideVectorBlob v)
  := by
  obtain ⟨o, hkind, htype⟩ := h
  rw [hashArg_vector hkind, htype]
  rfl

/-- Any other field, or none, has elements of 32 bits. -/
theorem hashArg_of_not_isWide {f : Option Field} (h : ∀ g ∈ f, ¬ g.IsWide) (v : List Binary32) :
  (vector v).hashArg f = .blob (vectorBlob v)
  := by
  cases f with
  | none => rfl
  | some g =>
    have hnarrow : isWide (some g) = false
      := by
      rw [isWide, Option.map_some]
      cases hkind : g.kind with
      | vector o =>
        have htype : o.elementType ≠ .float64 := fun htype => h g rfl ⟨o, hkind, htype⟩
        exact beq_false_of_ne htype
      | _ => rfl
    rw [hashArg, hnarrow]
    rfl

/-- Vectors of numbers are told apart by what is written to a field. -/
theorem eq_of_hashArg_eq {f : Option Field} {v w : List Binary32}
    (hnumbers : ∀ x ∈ v ++ w, x.datum ≠ .nan) (h : (vector v).hashArg f = (vector w).hashArg f) :
  v = w
  := by
  by_cases hwide : ∃ g ∈ f, g.IsWide
  · obtain ⟨g, rfl, hwide⟩ := hwide
    rw [hashArg_of_isWide hwide, hashArg_of_isWide hwide] at h
    exact eq_of_wideVectorBlob_eq hnumbers (Arg.blob.inj h)
  · have hnarrow : ∀ g ∈ f, ¬ g.IsWide := fun g hg hwide' => hwide ⟨g, hg, hwide'⟩
    rw [hashArg_of_not_isWide hnarrow, hashArg_of_not_isWide hnarrow] at h
    exact vectorBlob_injective (Arg.blob.inj h)

/-- A vector can be read back.  In the form with elements of 32 bits, which all fields have but
those that declare 64 bits, the elements are read as they are.  In the wide form they are read as
widened, which keeps every number.  So two vectors of numbers are never written the same to one
field. -/
theorem vector_reads_back (v : List Binary32) :
  ((vectorBlob v).length = 4 * v.length ∧ readSingles (vectorBlob v) = v) ∧
    (∀ f : Field, f.IsWide → ∃ blob, (vector v).hashArg (some f) = .blob blob ∧
      blob.length = 8 * v.length ∧ readDoubles blob = v.map Binary32.widen) ∧
    (∀ f : Option Field, (∀ g ∈ f, ¬ g.IsWide) → (vector v).hashArg f = .blob (vectorBlob v)) ∧
    (∀ x : Binary32, x.datum ≠ .nan → x.datum.SameNumber x.widen.datum) ∧
    ∀ f : Option Field, ∀ w, v ≠ w → (∀ x ∈ v ++ w, x.datum ≠ .nan) →
      (vector v).hashArg f ≠ (vector w).hashArg f
  := by
  refine ⟨⟨length_vectorBlob v, readSingles_vectorBlob v⟩, ?_, ?_, ?_, ?_⟩
  · intro f hwide
    exact ⟨wideVectorBlob v, hashArg_of_isWide hwide v, length_wideVectorBlob v,
      readDoubles_wideVectorBlob v⟩
  · intro f hnarrow
    apply hashArg_of_not_isWide hnarrow
  · intro x hnumber
    apply Binary32.widen_exact hnumber
  · intro f w hne hnumbers h
    exact hne (eq_of_hashArg_eq hnumbers h)

/-- In a field with elements of 64 bits, a one with a negative zero and a one with a positive zero
are not the same vector. -/
theorem zeros_read_back :
  let o : VectorOptions :=
    { algorithm := .flat, elementType := .float64, dim := 2, metric := .euclidean }
  let wide : Field := ⟨"v", none, .vector o, by decide, by decide⟩
  let v : List Binary32 := [⟨0x3F800000⟩, ⟨0x80000000⟩]
  let w : List Binary32 := [⟨0x3F800000⟩, ⟨0⟩]
  wide.IsWide ∧ v ≠ w ∧ (∀ x ∈ v ++ w, x.datum ≠ .nan) ∧
    (∃ blob, (vector v).hashArg (some wide) = .blob blob ∧ blob.length = 16 ∧
      readDoubles blob = [⟨0x3FF0000000000000⟩, ⟨0x8000000000000000⟩]) ∧
    (vector v).hashArg none = .blob (vectorBlob v) ∧
    (vector v).hashArg (some wide) ≠ (vector w).hashArg (some wide)
  := by
  intro o wide v w
  have hwide : wide.IsWide := ⟨o, rfl, rfl⟩
  have hne : v ≠ w := by decide
  have hnumbers : ∀ x ∈ v ++ w, x.datum ≠ .nan := by decide
  have hwiden : v.map Binary32.widen = [⟨0x3FF0000000000000⟩, ⟨0x8000000000000000⟩] := by
    decide +kernel
  obtain ⟨-, hread, hnarrow, -, hdiffer⟩ := vector_reads_back v
  obtain ⟨blob, hblob, hlength, hdoubles⟩ := hread wide hwide
  exact ⟨hwide, hne, hnumbers, ⟨blob, hblob, hlength, hdoubles.trans hwiden⟩,
    hnarrow none (fun _ hmem => nomatch hmem), hdiffer (some wide) w hne hnumbers⟩

end DocumentValue

end FullText
