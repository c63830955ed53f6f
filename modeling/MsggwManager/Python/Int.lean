import MsggwManager.Python.Text
import Mathlib.Data.Nat.Digits

/-!
# `int()` of a string, and `str()` of an int

`int(s)` in base 10 as CPython reads it: white space at both ends, an optional sign, then decimal
digits (`decimalValue`, so any script's digits) with single underscores between them, at most
`Py.maxStrDigits` of them (CPython's `sys.get_int_max_str_digits()`, 4300 by default; `json.loads`
is held to the same cap, so no decoded int has more digits). Its white space is `isSpace` less the
ASCII separators `\x1c`..`\x1f`, which CPython passes on to the parser unchanged and the parser
rejects.

`str(n)` of an int is `toString n`. What the script needs of the pair is that they invert each
other on the non-negative ints JSON can carry: `str(id)` is all digits (`Py.isdigit_toString`) and
`int` reads it back (`Py.int_toString`).
-/

namespace MsggwManager

/-- The white space `int()` skips at both ends. -/
def isIntSpace (c : Char) : Bool := isSpace c && !(0x1C ≤ c.toNat && c.toNat ≤ 0x1F)

/-- `cs` without `isIntSpace` characters at either end. -/
def trimIntSpace (cs : List Char) : List Char :=
  ((cs.dropWhile isIntSpace).reverse.dropWhile isIntSpace).reverse

/-- The digits of an integer literal, `digit (['_'] digit)*`, read onto `acc`. -/
def readDigits (acc : Nat) : List Char → Option Nat
  | [] => none
  | c :: rest =>
    match decimalValue c, rest with
    | none, _ => none
    | some d, [] => some (acc * 10 + d)
    | some d, '_' :: more => readDigits (acc * 10 + d) more
    | some d, more => readDigits (acc * 10 + d) more

namespace Py

/-- `sys.get_int_max_str_digits()` as CPython starts. -/
def maxStrDigits : Nat := 4300

/-- The unsigned literal `ds`, when it has at most `maxStrDigits` digits. -/
def readLiteral (ds : List Char) : Option Nat :=
  if (ds.filter (· != '_')).length ≤ maxStrDigits then readDigits 0 ds else none

/-- `int(s)`, or `none` where it raises `ValueError`. -/
def int (s : String) : Option Int :=
  match trimIntSpace s.toList with
  | '-' :: ds => (readLiteral ds).map fun n => -(n : Int)
  | '+' :: ds => (readLiteral ds).map Int.ofNat
  | ds => (readLiteral ds).map Int.ofNat

/-- `int(s) if s else default`, with `default` also where `int` raises `ValueError`. -/
def intOr (s : String) (default : Int) : Int :=
  if s.isEmpty then default else (int s).getD default

end Py

/-! ## Decimal strings of naturals -/

/-- The value of a string of ASCII digits. -/
def asciiValue (cs : List Char) : Nat := cs.foldl (fun a c => a * 10 + (c.toNat - 48)) 0

theorem digitChar_toNat {d : Nat} (hd : d < 10) : (Nat.digitChar d).toNat = d + 48 := by
  have table : ∀ d : Fin 10, (Nat.digitChar d).toNat = d + 48 := by decide
  exact table ⟨d, hd⟩

theorem isAsciiDigit_digitChar {d : Nat} (hd : d < 10) : isAsciiDigit (Nat.digitChar d) := by
  simp only [isAsciiDigit, digitChar_toNat hd]
  simp only [Bool.and_eq_true, decide_eq_true_eq]
  omega

theorem toDigitsCore_ten (fuel n : Nat) (ds : List Char) (hn : n < fuel) :
    ∃ D, Nat.toDigitsCore 10 fuel n ds = D ++ ds ∧ D ≠ [] ∧ (∀ c ∈ D, isAsciiDigit c) ∧
      asciiValue D = n := by
  induction fuel generalizing n ds with
  | zero => omega
  | succ f ih =>
    have hmod : n % 10 < 10 := Nat.mod_lt _ (by omega)
    simp only [Nat.toDigitsCore]
    split
    · refine ⟨[Nat.digitChar (n % 10)], rfl, by simp, by simp [isAsciiDigit_digitChar hmod], ?_⟩
      simp only [asciiValue, List.foldl, digitChar_toNat hmod]
      omega
    · obtain ⟨D, hD, hne, hdig, hval⟩ :=
        ih (n / 10) (Nat.digitChar (n % 10) :: ds) (by omega)
      refine ⟨D ++ [Nat.digitChar (n % 10)], by simp [hD], by simp, ?_, ?_⟩
      · simp only [List.mem_append, List.mem_singleton]
        rintro c (hc | rfl)
        exacts [hdig c hc, isAsciiDigit_digitChar hmod]
      · simp only [asciiValue, List.foldl_append, List.foldl] at hval ⊢
        rw [hval, digitChar_toNat hmod]
        omega

theorem toString_natCast (n : Nat) :
    ∃ D, (toString (n : Int)).toList = D ∧ D ≠ [] ∧ (∀ c ∈ D, isAsciiDigit c) ∧
      asciiValue D = n := by
  obtain ⟨D, hD, hrest⟩ := toDigitsCore_ten (n + 1) n [] (by omega)
  exact ⟨D, by simpa using hD, hrest⟩

theorem lt_pow_maxStrDigits {n : Nat} (h : n < 10) : n < 10 ^ Py.maxStrDigits :=
  lt_of_lt_of_le h (Nat.le_self_pow (by decide) 10)

theorem length_toString_natCast {n : Nat} (h : n < 10 ^ Py.maxStrDigits) :
    (toString (n : Int)).length ≤ Py.maxStrDigits :=
  Nat.repr_length n _ (by decide) h

theorem ne_of_isAsciiDigit {c d : Char} (hc : isAsciiDigit c) (hd : isAsciiDigit d = false) :
    c ≠ d := by
  rintro rfl
  simp [hd] at hc

theorem readDigits_ascii (acc : Nat) {cs : List Char} (hne : cs ≠ [])
    (hdig : ∀ c ∈ cs, isAsciiDigit c) :
    readDigits acc cs = some (cs.foldl (fun a c => a * 10 + (c.toNat - 48)) acc) := by
  induction cs generalizing acc with
  | nil => exact absurd rfl hne
  | cons c rest ih =>
    have hc := decimalValue_of_isAsciiDigit (hdig c (by simp))
    cases rest with
    | nil => rw [readDigits.eq_3 _ _ _ hc]; rfl
    | cons c' more =>
      have hc' : c' ≠ '_' := ne_of_isAsciiDigit (hdig c' (by simp)) (by decide)
      rw [readDigits.eq_5 _ _ _ _ hc (by simp) (by simp [hc']),
        ih _ (by simp) (fun x hx => hdig x (by simp [hx]))]
      rfl

theorem isSpace_of_isAsciiDigit {c : Char} (h : isAsciiDigit c) : isSpace c = false := by
  simp only [isAsciiDigit, Bool.and_eq_true, decide_eq_true_eq] at h
  simp only [isSpace, inRanges, spaceRanges, List.any_cons, List.any_nil, Bool.or_false]
  simp only [Bool.or_eq_false_iff, Bool.and_eq_false_iff, decide_eq_false_iff_not, not_le]
  omega

theorem trimIntSpace_ascii {cs : List Char} (hdig : ∀ c ∈ cs, isAsciiDigit c) :
    trimIntSpace cs = cs := by
  have hsp : ∀ c ∈ cs, isIntSpace c = false := fun c hc => by
    simp [isIntSpace, isSpace_of_isAsciiDigit (hdig c hc)]
  have hdrop : ∀ l : List Char, (∀ c ∈ l, isIntSpace c = false) → l.dropWhile isIntSpace = l :=
    fun l hl => by
      cases l with
      | nil => rfl
      | cons c rest => simp [List.dropWhile_cons, hl c (by simp)]
  rw [trimIntSpace, hdrop cs hsp, hdrop _ (by simpa using hsp), List.reverse_reverse]

/-- **`str` of a non-negative int is all digits.** -/
theorem Py.isdigit_toString (n : Nat) : Py.isdigit (toString (n : Int)) = true := by
  obtain ⟨D, hD, hne, hdig, -⟩ := toString_natCast n
  simp only [Py.isdigit, hD, List.isEmpty_eq_false.mpr hne, Bool.not_false, Bool.true_and,
    List.all_eq_true]
  exact fun c hc => isDigitChar_of_isDecimal (isDecimal_of_isAsciiDigit (hdig c hc))

/-- **`int` reads back `str` of a non-negative int** of at most `Py.maxStrDigits` digits. -/
theorem Py.int_toString {n : Nat} (h : n < 10 ^ Py.maxStrDigits) :
    Py.int (toString (n : Int)) = some n := by
  obtain ⟨D, hD, hne, hdig, hval⟩ := toString_natCast n
  have hlen : (D.filter (· != '_')).length ≤ Py.maxStrDigits := by
    have hunder : ∀ c ∈ D, (c != '_') = true := fun c hc =>
      bne_iff_ne.mpr (ne_of_isAsciiDigit (hdig c hc) (by decide))
    rw [List.filter_eq_self.mpr hunder, ← hD]
    exact length_toString_natCast h
  have hread : Py.readLiteral D = some n := by
    rw [Py.readLiteral, if_pos hlen, readDigits_ascii 0 hne hdig, ← hval]
    rfl
  obtain ⟨c, rest, rfl⟩ := List.exists_cons_of_ne_nil hne
  have hc := hdig c (by simp)
  have hsign : c ≠ '-' ∧ c ≠ '+' :=
    ⟨ne_of_isAsciiDigit hc (by decide), ne_of_isAsciiDigit hc (by decide)⟩
  simp only [Py.int, hD, trimIntSpace_ascii hdig]
  split <;> simp_all

end MsggwManager
