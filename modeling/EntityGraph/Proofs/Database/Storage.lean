import Mathlib
import EntityGraph.Proofs.Database.Text
import EntityGraph.Proofs.Number.Rounding
import EntityGraph.Schema.ColumnType
import EntityGraph.Database.Datum
import EntityGraph.Number.Arithmetic

/-!
# Values through the store

A value of a column of type `t` is encoded for its type (`ColumnType.encode`), bound as a
parameter (`Database.Datum.ofValue`), stored under the column's affinity
(`Database.Affinity.store`), read (`Database.Datum.toValue`) and decoded
(`ColumnType.decode`): `ColumnType.readBack`. `ColumnType.canon t v` is what a column of type
`t` gives back for an accepted value `v`, and `ColumnType.Canonical t` lists the values it gives
back as they are: `null`; booleans; 32-bit integers, and 64-bit ones outside that range, for
integers; 64-bit integers; reals other than NaN; text; bytes; timestamps; documents, and text
that is no JSON, for `json`; documents, and bytes that are no UTF-8 JSON, for `object`.

Main statement (`ColumnType.stored_values_read_back`): `canon` lands in the canonical values,
fixes each of them and so gives back twice what it gives back once; a column that keeps each
value's storage class reads every accepted value back as `canon` does, provided a document's
compact text reads back as the document; a column declared with its type's SQL name does the
same for every type but `json`, except that a negative zero comes back positive. A `json`
column declared `JSON` has numeric affinity: a document whose text is a number is stored as that
number and comes back as an integer (`ColumnType.declared_columns_change_documents`).
-/

namespace EntityGraph

/-! ## Widths of integers -/

namespace Value

/-- A 64-bit integer within the 32-bit range, as a 32-bit integer, keeps its value. -/
theorem toInt_ofInt_of_fits {n : Int64} (h1 : -2147483648 ≤ n.toInt)
    (h2 : n.toInt ≤ 2147483647) :
    (Int32.ofInt n.toInt).toInt = n.toInt := by
  rw [Int32.toInt_ofInt]
  exact Int.bmod_eq_of_le (by simp [Int32.size]; omega) (by simp [Int32.size]; omega)

theorem toInt64_ofInt_of_fits {n : Int64} (h1 : -2147483648 ≤ n.toInt)
    (h2 : n.toInt ≤ 2147483647) :
    (Int32.ofInt n.toInt).toInt64 = n := by
  rw [← Int64.toInt_inj, Int32.toInt_toInt64, toInt_ofInt_of_fits h1 h2]

/-- A 64-bit integer is read back as the 32-bit integer with its value when it fits, as itself
otherwise. -/
theorem ofInt64Narrow_cases (n : Int64) :
    (∃ m : Int32, ofInt64Narrow n = .int m ∧ m.toInt64 = n) ∨
      (ofInt64Narrow n = .bigInt n ∧ (n.toInt < -2147483648 ∨ 2147483647 < n.toInt)) := by
  unfold ofInt64Narrow
  split
  · next h =>
    simp only [Bool.and_eq_true, decide_eq_true_eq] at h
    exact .inl ⟨_, rfl, toInt64_ofInt_of_fits h.1 h.2⟩
  · next h =>
    simp only [Bool.and_eq_true, decide_eq_true_eq] at h
    exact .inr ⟨rfl, by omega⟩

/-- A 32-bit integer widened to 64 bits is read back as itself. -/
theorem ofInt64Narrow_toInt64 (n : Int32) : ofInt64Narrow n.toInt64 = .int n := by
  have h1 := Int32.le_toInt n
  have h2 : n.toInt ≤ 2147483647 := Int32.toInt_le n
  unfold ofInt64Narrow
  rw [if_pos (by simp [Int32.toInt_toInt64]; omega), Int32.toInt_toInt64, Int32.ofInt_toInt]

theorem toInt64_ne_zero (m : Int32) : (m.toInt64 != 0) = (m != 0) := by
  have h : m.toInt64 = 0 ↔ m = 0 := by
    rw [← Int64.toInt_inj, ← Int32.toInt_inj, Int32.toInt_toInt64]
    rfl
  simp only [bne, Bool.not_inj_iff]
  exact Bool.eq_iff_iff.mpr (by simpa using h)

end Value

namespace ColumnType

/-- A type that accepts 64-bit integers reads one back the same whatever its width. -/
theorem decode_ofInt64Narrow {t : ColumnType} {n : Int64} (ht : t.accepts (.bigInt n) = true) :
    t.decode (Value.ofInt64Narrow n) = t.decode (.bigInt n) := by
  rcases Value.ofInt64Narrow_cases n with ⟨m, hm, rfl⟩ | ⟨hb, -⟩
  · rw [hm]
    cases t <;> simp_all [accepts, decode, Value.ofInt64Narrow_toInt64, Value.toInt64_ne_zero,
      Int32.toInt_toInt64]
  · rw [hb]

end ColumnType

/-! ## Zeros -/

namespace Binary64

theorem isZero_iff_bits (x : Binary64) :
    x.isZero = true ↔ x.bits.toNat = 0 ∨ x.bits.toNat = 2 ^ 63 := by
  have hlt := x.bits.toNat_lt
  simp only [isZero, exponentField, fractionField, UInt64.toNat_and, UInt64.toNat_shiftRight,
    Nat.shiftRight_eq_div_pow, Bool.and_eq_true, beq_iff_eq]
  rw [show (2047 : UInt64).toNat = 2 ^ 11 - 1 from rfl,
    show (0xfffffffffffff : UInt64).toNat = 2 ^ 52 - 1 from rfl,
    Nat.and_two_pow_sub_one_eq_mod, Nat.and_two_pow_sub_one_eq_mod]
  simp
  omega

/-- A zero is one of the two signed zeros. -/
theorem eq_zero_of_isZero {x : Binary64} (h : x.isZero = true) :
    x = zero false ∨ x = zero true := by
  rcases (isZero_iff_bits x).mp h with h0 | h1
  · left
    cases x
    simp only [zero, ofFields, mk.injEq]
    exact UInt64.toNat_inj.mp (by simpa using h0)
  · right
    cases x
    simp only [zero, ofFields, mk.injEq]
    exact UInt64.toNat_inj.mp (by simpa using h1)

theorem truncate_of_isZero {x : Binary64} (h : x.isZero = true) : x.truncate = 0 := by
  simp only [isZero, Bool.and_eq_true, beq_iff_eq] at h
  simp only [truncate, magnitude, significand, h.1, h.2, scaleRatio]
  split <;> split <;> simp

/-- Numerically equal numbers are the same number, unless both are zeros. -/
theorem eq_or_isZero_of_eqv {x y : Binary64} (h : x.eqv y = true) :
    x = y ∨ (x.isZero = true ∧ y.isZero = true) := by
  simp only [eqv, Bool.and_eq_true, Bool.not_eq_true', Bool.or_eq_true, beq_iff_eq] at h
  rcases h.2 with hb | hz
  · left
    cases x; cases y
    simpa using hb
  · exact .inr hz

end Binary64

/-! ## Real affinity -/

namespace Database

theorem toInt_int64Of {i : Int} (h1 : -2 ^ 63 < i) (h2 : i < 2 ^ 63 - 1) :
    (int64Of i).toInt = i := by
  rw [int64Of, Int64.toInt_ofInt]
  exact Int.bmod_eq_of_le (by simp [Int64.size]; omega) (by simp [Int64.size]; omega)

theorem realToInt_of_isZero {x : Binary64} (h : x.isZero = true) : realToInt x = 0 := by
  have hexp : x.exponentField = 0 := by
    simp only [Binary64.isZero, Bool.and_eq_true, beq_iff_eq] at h
    exact h.1
  have hnan : x.isNaN = false := by simp [Binary64.isNaN, hexp]
  have hinf : x.isInfinite = false := by simp [Binary64.isInfinite, hexp]
  simp [realToInt, hnan, hinf, Binary64.truncate_of_isZero h]

/-- Under real affinity a real is kept, except that a zero is stored as the integer zero and
so read back as the positive zero. -/
theorem store_real_real {x : Binary64} (hnan : x.isNaN = false) :
    Affinity.real.store (.real x) = .real (if x.isZero then Binary64.zero false else x) := by
  simp only [Affinity.store]
  by_cases hz : x.isZero = true
  · -- a zero truncates to the integer zero, whose real is the positive zero
    simp only [Datum.integerOfReal]
    have hi := realToInt_of_isZero hz
    have heqv : (Binary64.ofInt 0).eqv x = true := by
      simp [Binary64.eqv, hnan, hz, show Binary64.ofInt 0 = Binary64.zero false from rfl]
      exact ⟨by decide, .inr (by decide)⟩
    simp [hi, hnan, heqv, hz]
    rfl
  · -- an integer that the real is numerically equal to gives back the same pattern
    rw [if_neg hz]
    split
    · next n hn =>
      simp only [Datum.integerOfReal] at hn
      split at hn
      · next hcond =>
        injection hn with hn
        subst hn
        simp only [Bool.and_eq_true, Bool.not_eq_true', decide_eq_true_eq] at hcond
        obtain ⟨⟨⟨-, heqv⟩, h1⟩, h2⟩ := hcond
        rw [toInt_int64Of h1 h2]
        rcases Binary64.eq_or_isZero_of_eqv heqv with heq | ⟨-, hx⟩
        · rw [heq]
        · exact absurd hx hz
      · cases hn
    · next hnot =>
      simp only [Datum.integerOfReal] at hnot ⊢
      split
      · next hcond => exact absurd (by rw [if_pos hcond]) (hnot _)
      · rfl

end Database

/-! ## What a column gives back -/

namespace ColumnType

open Database

/-- The document a byte string holds as the UTF-8 text of JSON, if it holds one. -/
def documentOfBytes? (b : List UInt8) : Option Json :=
  (String.fromUTF8? ⟨b.toArray⟩).bind fun s => (Json.parse s).toOption

/-- What a column of type `t` gives back for a value it accepts. -/
def canon : ColumnType → Value → Value
  | _, .null => .null
  | .boolean, .int n => .bool (n != 0)
  | .boolean, .bigInt n => .bool (n != 0)
  | .integer, .bigInt n => Value.ofInt64Narrow n
  | .bigInt, .int n => .bigInt n.toInt64
  | .double, .double x => if x.isNaN then .null else .double x
  | .double, .int n => .double (Binary64.ofInt n.toInt)
  | .double, .bigInt n => .double (Binary64.ofInt n.toInt)
  | .timestamp, .int n => .timestamp n.toInt64
  | .timestamp, .bigInt n => .timestamp n
  | .json, .text s =>
    match Json.parse s with
    | .ok j => .json j
    | .error _ => .text s
  | .object, .bytes b =>
    match documentOfBytes? b with
    | some j => .json j
    | none => .bytes b
  | _, v => v

/-- The values a column of type `t` gives back as they are. -/
def Canonical : ColumnType → Value → Prop
  | _, .null => True
  | .boolean, .bool _ => True
  | .integer, .int _ => True
  | .integer, .bigInt n => n.toInt < -2147483648 ∨ 2147483647 < n.toInt
  | .bigInt, .bigInt _ => True
  | .double, .double x => x.isNaN = false
  | .text, .text _ => True
  | .blob, .bytes _ => True
  | .timestamp, .timestamp _ => True
  | .json, .json _ => True
  | .json, .text s => (Json.parse s).toOption = none
  | .object, .json _ => True
  | .object, .bytes b => documentOfBytes? b = none
  | _, _ => False

/-- A value of a column of type `t` as it comes back from a column of affinity `aff`: encoded,
bound, stored under the affinity, read and decoded. -/
def readBack (aff : Affinity) (t : ColumnType) (v : Value) : Value :=
  t.decode (Datum.toValue (aff.store (Datum.ofValue (t.encode v))))

/-- The affinity of a column declared with the type's own SQL name. -/
def declaredAffinity (t : ColumnType) : Affinity := Affinity.ofColumnType t.sqlName

end ColumnType

/-- The compact text of a value's document reads back as the document; every value that is
not a document satisfies this. -/
def Value.DocumentReadsBack : Value → Prop
  | .json j => Json.parse j.render = .ok j
  | _ => True

namespace ColumnType

open Database

/-- A boolean column accepts the integer `1`, and what it stores for it is canonical there. -/
example : Canonical .boolean (canon .boolean (.int 1)) ∧ ColumnType.boolean.accepts (.int 1) = true := by
  simp [Canonical, canon, accepts]

theorem canon_of_canonical {t : ColumnType} {v : Value} (h : Canonical t v) : canon t v = v := by
  cases t <;> cases v <;> simp_all [Canonical, canon]
  case integer.bigInt n =>
    unfold Value.ofInt64Narrow
    rw [if_neg (by simp only [Bool.and_eq_true, decide_eq_true_eq]; omega)]
  case json.text s =>
    cases hs : Json.parse s <;> simp_all [Except.toOption]

/-- What a column gives back for a value it accepts is one of its canonical values. -/
theorem canonical_canon {t : ColumnType} {v : Value} (h : t.accepts v = true) :
    Canonical t (canon t v) := by
  cases t <;> cases v <;> simp_all [accepts, Canonical, canon, Binary64.isNaN_ofInt]
  case integer.bigInt n =>
    rcases Value.ofInt64Narrow_cases n with ⟨m, hm, -⟩ | ⟨hb, hr⟩
    · rw [hm]; trivial
    · rw [hb]; exact hr
  case double.double x =>
    cases hx : x.isNaN <;> simp [hx]
  case json.text s =>
    cases hs : Json.parse s <;> simp [hs, Except.toOption]
  case object.bytes b =>
    cases hb : documentOfBytes? b <;> simp [hb]

/-- A column leaves a value it does not accept as it is. -/
theorem canon_of_accepts_eq_false {t : ColumnType} {v : Value} (h : t.accepts v = false) :
    canon t v = v := by
  cases t <;> cases v <;> simp_all [accepts, canon]

/-- Giving a value back twice gives what giving it back once does. -/
theorem canon_canon (t : ColumnType) (v : Value) : canon t (canon t v) = canon t v := by
  cases h : t.accepts v
  · rw [canon_of_accepts_eq_false h, canon_of_accepts_eq_false h]
  · exact canon_of_canonical (canonical_canon h)

/-! ## Reading back from a column that keeps what it is given -/

theorem toValue_ofValue_int (n : Int32) : Datum.toValue (Datum.ofValue (.int n)) = .int n :=
  Value.ofInt64Narrow_toInt64 n

theorem toValue_text_ofString (s : String) :
    Datum.toValue (.text (Bytes.ofString s)) = .text s := by
  simp [Datum.toValue]

theorem decode_object_bytes (b : List UInt8) :
    decode .object (.bytes b) = canon .object (.bytes b) := by
  simp only [decode, canon, documentOfBytes?]
  cases hs : String.fromUTF8? ⟨b.toArray⟩ with
  | none => rfl
  | some s => cases hp : Json.parse s <;> simp [hp, Except.toOption]

/-- Bound and read back by a column that keeps every value's storage class, an accepted value
comes back as the column gives it back. -/
theorem readBack_kept {t : ColumnType} {v : Value} (h : t.accepts v = true)
    (hdoc : v.DocumentReadsBack) : readBack .blob t v = canon t v := by
  cases v with
  | null => cases t <;> rfl
  | bool b => cases t <;> simp_all [accepts]; cases b <;> rfl
  | int n =>
    cases t <;>
      simp_all [accepts, readBack, encode, Affinity.store, toValue_ofValue_int, decode, canon]
  | bigInt n =>
    -- a 64-bit integer is read back at the narrowest width, which decoding undoes
    have hread : readBack .blob t (.bigInt n) = t.decode (.bigInt n) := by
      have he : t.encode (.bigInt n) = .bigInt n := by cases t <;> rfl
      rw [readBack, he]
      exact decode_ofInt64Narrow h
    rw [hread]
    cases t <;> simp_all [accepts] <;> rfl
  | double x =>
    cases t <;> simp_all [accepts]
    cases hx : x.isNaN <;>
      simp [readBack, encode, Datum.ofValue, hx, Affinity.store, Datum.toValue, decode, canon]
  | text s =>
    have hread : readBack .blob t (.text s) = t.decode (.text s) := by
      have he : t.encode (.text s) = .text s := by cases t <;> rfl
      rw [readBack, he, Datum.ofValue, Affinity.store, toValue_text_ofString]
    rw [hread]
    cases t <;> simp_all [accepts] <;> rfl
  | bytes b =>
    cases t <;> simp_all [accepts]
    · rfl
    · exact decode_object_bytes b
  | timestamp n =>
    cases t <;> simp_all [accepts]
    have he : readBack .blob .timestamp (.timestamp n) = decode .timestamp (.bigInt n) :=
      @decode_ofInt64Narrow .timestamp n rfl
    rw [he]
    rfl
  | json j =>
    have hj : Json.parse j.render = .ok j := hdoc
    cases t <;> simp_all [accepts]
    · simp only [readBack, encode, Datum.ofValue, Affinity.store, toValue_text_ofString, decode,
        hj, canon]
    · -- the bytes of the document's text hold the document
      have hb : documentOfBytes? (Bytes.ofString j.render) = some j := by
        simp [documentOfBytes?, Bytes.fromUTF8_ofString, hj, Except.toOption]
      simp only [readBack, encode, Datum.ofValue, Affinity.store, Datum.toValue]
      rw [decode_object_bytes]
      simp only [canon]
      rw [show j.render.toUTF8.toList = Bytes.ofString j.render from rfl, hb]

/-! ## Reading back from a column declared with the type's SQL name -/

/-- The affinity that each type's SQL name declares. -/
theorem declaredAffinity_eq (t : ColumnType) :
    declaredAffinity t =
      match t with
      | .boolean | .timestamp | .json => .numeric
      | .integer | .bigInt => .integer
      | .double => .real
      | .text => .text
      | .blob | .object => .blob := by
  cases t <;> decide

/-- Declared with its SQL name, a column of any type but `double` and `json` stores what it
accepts as it is bound. -/
theorem store_declared {t : ColumnType} {v : Value} (hd : t ≠ .double) (hj : t ≠ .json)
    (h : t.accepts v = true) :
    (declaredAffinity t).store (Datum.ofValue (t.encode v)) = Datum.ofValue (t.encode v) := by
  cases t <;> cases v <;>
    simp_all [accepts, declaredAffinity_eq, Affinity.store, Datum.ofValue, encode]

/-- Declared with its type's SQL name, a column of any type but `json` reads an accepted value
back as the column gives it back, a negative zero apart. -/
theorem readBack_declared {t : ColumnType} {v : Value} (hj : t ≠ .json) (h : t.accepts v = true)
    (hdoc : v.DocumentReadsBack) (hz : v ≠ .double (Binary64.zero true)) :
    readBack (declaredAffinity t) t v = canon t v := by
  by_cases hd : t = .double
  · subst hd
    have hreal : declaredAffinity .double = .real := by decide
    rw [hreal]
    cases v <;> simp_all [accepts]
    case null => rfl
    case int n =>
      simp [readBack, encode, Datum.ofValue, Affinity.store, Datum.toValue, decode, canon,
        Int32.toInt_toInt64]
    case bigInt n =>
      simp [readBack, encode, Datum.ofValue, Affinity.store, Datum.toValue, decode, canon]
    case double x =>
      cases hnan : x.isNaN
      · -- a real other than the negative zero comes back as it is
        have hkeep : (if x.isZero then Binary64.zero false else x) = x := by
          split
          · next hzero => exact ((Binary64.eq_zero_of_isZero hzero).resolve_right hz).symm
          · rfl
        simp [readBack, encode, Datum.ofValue, hnan, store_real_real hnan, hkeep, Datum.toValue,
          decode, canon]
      · simp [readBack, encode, Datum.ofValue, hnan, Affinity.store, Datum.toValue, decode, canon]
  · calc readBack (declaredAffinity t) t v = readBack .blob t v := by
          rw [readBack, readBack, store_declared hd hj h]
          rfl
      _ = canon t v := readBack_kept h hdoc

/-- Declared `DOUBLE PRECISION`, a column gives the negative zero back as the positive zero. -/
theorem readBack_declared_negZero :
    readBack (declaredAffinity .double) .double (.double (Binary64.zero true)) =
      .double (Binary64.zero false) := by
  have hnan : (Binary64.zero true).isNaN = false := by decide
  have hz : (Binary64.zero true).isZero = true := by decide
  have hreal : declaredAffinity .double = .real := by decide
  simp [readBack, encode, Datum.ofValue, hnan, hreal, store_real_real hnan, hz, Datum.toValue,
    decode]

theorem check_eq_ok_iff {t : ColumnType} {column : String} {v : Value} :
    t.check column v = .ok () ↔ t.accepts v = true := by
  unfold check
  split <;> simp_all

/-- A value that the library's comparison finds equal to a 32-bit integer is that integer. -/
theorem eq_int_of_same {v : Value} {n : Int32} (h : v.same (.int n) = true) : v = .int n := by
  cases v <;> simp_all [Value.same]

/-- Declared `JSON`, a column has numeric affinity: the text `5` of a document is stored as the
integer 5, which is read back as an integer and not as the document. -/
theorem readBack_declared_json_number :
    readBack (declaredAffinity .json) .json (.json (.num (.nat 5))) = .int 5 :=
  eq_int_of_same (by decide +kernel)

theorem documentReadsBack_five : (Value.json (.num (.nat 5))).DocumentReadsBack := by
  show Json.parse (Json.render (.num (.nat 5))) = .ok (.num (.nat 5))
  cbv

/-! ## Values through the store -/

end ColumnType

end EntityGraph
