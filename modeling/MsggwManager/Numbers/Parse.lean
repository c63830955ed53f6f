import MsggwManager.Python.Text
import Mathlib.Data.String.Basic

/-!
# Parsing a batch of numbers

`parse_numbers_csv(raw)` turns newlines into commas, splits at commas, strips each piece and
drops the empty ones (`csvParts`); then, in order, it keeps each piece whose `normalize_number`
(its `\d` characters) has 10 or 11 characters, with a `1` put in front of a 10-digit one, and
reports the others as invalid (`parseNumbersCsv`).

`parseNumbersCsv_spec` is the batch in closed form: the canonical numbers of the fragments in
order (`canonNumber`), and the fragments that have none. From it, the parse of two texts joined
by a separator is the two parses joined (`parseNumbersCsv_append`), which is what makes entering
numbers one per line at menu option 9 the same as entering them on one line.

Every number the parse keeps has eleven `\d` characters (`parseNumbersCsv_valid`); they are ASCII
digits when the text is ASCII (`parseNumbersCsv_ascii`), and the digits of other scripts pass
through as typed. Conversely every list of such numbers, joined by commas, parses back to itself
with nothing invalid, so the parse is idempotent on its own batches (`parseNumbersCsv_join_valid`).
-/

namespace MsggwManager

/-- `normalize_number(num)`: `re.sub(r"[^\d]", "", num)`. -/
def normalizeNumber (num : String) : String := String.mk (num.toList.filter isDecimal)

/-- The pieces `parse_numbers_csv` classifies:
`[p.strip() for p in raw.replace("\n", ",").split(",") if p.strip()]`. -/
def csvParts (raw : String) : List String :=
  ((Py.split ',' (Py.replace '\n' ',' raw)).filter fun p => !(Py.strip p).isEmpty).map Py.strip

/-- One pass of the loop of `parse_numbers_csv` over the lists `(valid, invalid)`. -/
def classifyPart (acc : List String × List String) (p : String) : List String × List String :=
  let normalized := normalizeNumber p
  if 10 ≤ normalized.length ∧ normalized.length ≤ 11 then
    (acc.1 ++ [if normalized.length = 10 then "1" ++ normalized else normalized], acc.2)
  else (acc.1, acc.2 ++ [p])

/-- `parse_numbers_csv(raw)`: the numbers it returns, and the entries it prints as invalid. -/
def parseNumbersCsv (raw : String) : List String × List String :=
  (csvParts raw).foldl classifyPart ([], [])

/-! ## The batch in closed form -/

/-- The fragments of `raw`: newlines made commas, split at commas, trimmed, empty ones dropped. -/
def fragments (raw : String) : List String :=
  ((Py.split ',' (Py.replace '\n' ',' raw)).map Py.strip).filter fun p => !p.isEmpty

/-- The eleven-digit number a fragment stands for, when its digits number 10 or 11. -/
def canonNumber (p : String) : Option String :=
  let d := normalizeNumber p
  if d.length = 10 then some ("1" ++ d) else if d.length = 11 then some d else none

theorem csvParts_eq_fragments (raw : String) : csvParts raw = fragments raw := by
  simp only [csvParts, fragments, List.filter_map]
  rfl

theorem classifyPart_eq (acc : List String × List String) (p : String) :
    classifyPart acc p =
      (acc.1 ++ (canonNumber p).toList, acc.2 ++ if (canonNumber p).isNone then [p] else []) := by
  unfold classifyPart canonNumber
  by_cases h10 : (normalizeNumber p).length = 10
  · simp [h10]
  · by_cases h11 : (normalizeNumber p).length = 11
    · simp [h11]
    · have : ¬(10 ≤ (normalizeNumber p).length ∧ (normalizeNumber p).length ≤ 11) := by omega
      simp [h10, h11, this]

theorem foldl_classifyPart (ps : List String) (acc : List String × List String) :
    ps.foldl classifyPart acc =
      (acc.1 ++ ps.filterMap canonNumber, acc.2 ++ ps.filter fun p => (canonNumber p).isNone) := by
  induction ps generalizing acc with
  | nil => simp
  | cons p ps ih =>
    rw [List.foldl_cons, ih, classifyPart_eq]
    cases h : canonNumber p <;> simp [h, List.filterMap_cons, List.filter_cons]

theorem parseNumbersCsv_eq (raw : String) :
    parseNumbersCsv raw = ((fragments raw).filterMap canonNumber,
      (fragments raw).filter fun p => (canonNumber p).isNone) := by
  simp [parseNumbersCsv, foldl_classifyPart, csvParts_eq_fragments]

/-- **The batch is the fragments' numbers, in order; the rest are reported invalid.** Each
fragment lands in exactly one of the two lists. -/
theorem parseNumbersCsv_spec (raw : String) :
    parseNumbersCsv raw = ((fragments raw).filterMap canonNumber,
      (fragments raw).filter fun p => (canonNumber p).isNone) ∧
    (parseNumbersCsv raw).1.length + (parseNumbersCsv raw).2.length = (fragments raw).length := by
  refine ⟨parseNumbersCsv_eq raw, ?_⟩
  rw [parseNumbersCsv_eq]
  induction fragments raw with
  | nil => rfl
  | cons p ps ih =>
    cases h : canonNumber p <;> simp_all [List.filterMap_cons, List.filter_cons] <;> omega

example : parseNumbersCsv "(202) 555-0100\n12025550101, 555" =
    (["12025550100", "12025550101"], ["555"]) := by decide

/-! ## What a batch holds -/

/-- A number as the script submits it: eleven characters, each a `\d` digit. -/
def ValidNumber (n : String) : Prop := n.length = 11 ∧ ∀ c ∈ n.toList, isDecimal c = true

instance (n : String) : Decidable (ValidNumber n) := inferInstanceAs (Decidable (_ ∧ _))

theorem canonNumber_valid {p n : String} (h : canonNumber p = some n) : ValidNumber n := by
  have hdec : ∀ c ∈ (normalizeNumber p).toList, isDecimal c = true := fun c hc =>
    (List.mem_filter.mp hc).2
  simp only [canonNumber] at h
  split_ifs at h with h10 h11 <;> cases h
  · refine ⟨by rw [String.length_append, h10]; rfl, fun c hc => ?_⟩
    rcases List.mem_append.mp hc with hc | hc
    · rw [List.mem_singleton.mp hc]
      decide
    · exact hdec c hc
  · exact ⟨h11, hdec⟩

theorem parseNumbersCsv_valid {raw n : String} (h : n ∈ (parseNumbersCsv raw).1) :
    ValidNumber n := by
  rw [parseNumbersCsv_eq] at h
  obtain ⟨p, -, hp⟩ := List.mem_filterMap.mp h
  exact canonNumber_valid hp

theorem mem_fragments {raw p : String} {c : Char} (hp : p ∈ fragments raw) (hc : c ∈ p.toList) :
    c = ',' ∨ c ∈ raw.toList := by
  obtain ⟨q, hq, rfl⟩ := List.mem_map.mp (List.mem_filter.mp hp).1
  exact Py.mem_replace (Py.mem_split hq (Py.mem_strip hc))

theorem mem_canonNumber {p n : String} {c : Char} (h : canonNumber p = some n)
    (hc : c ∈ n.toList) : c = '1' ∨ (c ∈ p.toList ∧ isDecimal c) := by
  have hdigit : c ∈ (normalizeNumber p).toList → c ∈ p.toList ∧ isDecimal c := fun hc' =>
    List.mem_filter.mp hc'
  simp only [canonNumber] at h
  split_ifs at h <;> cases h
  · rcases List.mem_append.mp hc with hc | hc
    · exact .inl (List.mem_singleton.mp hc)
    · exact .inr (hdigit hc)
  · exact .inr (hdigit hc)

/-- **ASCII text gives ASCII numbers**: when the text is ASCII, every number of the batch is eleven
ASCII digits. -/
theorem parseNumbersCsv_ascii {raw : String} (hraw : ∀ c ∈ raw.toList, c.toNat < 128) :
    ∀ n ∈ (parseNumbersCsv raw).1, n.length = 11 ∧ ∀ c ∈ n.toList, isAsciiDigit c := by
  intro n hn
  rw [parseNumbersCsv_eq] at hn
  obtain ⟨p, hp, hcanon⟩ := List.mem_filterMap.mp hn
  refine ⟨(canonNumber_valid hcanon).1, fun c hc => ?_⟩
  rcases mem_canonNumber hcanon hc with rfl | ⟨hcp, hdec⟩
  · decide
  · rcases mem_fragments hp hcp with rfl | hcraw
    · exact absurd hdec (by decide)
    · exact isAsciiDigit_of_isDecimal hdec (hraw c hcraw)

theorem parseNumbersCsv_ascii_dashed :
    (∀ c ∈ "(202) 555-0100".toList, c.toNat < 128) ∧
      ∀ n ∈ (parseNumbersCsv "(202) 555-0100").1, n.length = 11 ∧ ∀ c ∈ n.toList, isAsciiDigit c :=
  ⟨by decide, parseNumbersCsv_ascii (by decide)⟩

/-! ## Batches of joined texts -/

/-- Both lists of two parses, joined. -/
def joinParses (x y : List String × List String) : List String × List String :=
  (x.1 ++ y.1, x.2 ++ y.2)

theorem fragments_append_sep (a b : String) :
    fragments (a ++ String.singleton ',' ++ b) = fragments a ++ fragments b := by
  have hsep : Py.replace '\n' ',' (String.singleton ',') = String.singleton ',' := by decide
  simp only [fragments, Py.replace_append, hsep, Py.split_append_sep, List.map_append,
    List.filter_append]

theorem fragments_newline (a b : String) :
    fragments (a ++ String.singleton '\n' ++ b) = fragments (a ++ String.singleton ',' ++ b) := by
  have hsep : Py.replace '\n' ',' (String.singleton '\n') = String.singleton ',' := by decide
  have hcomma : Py.replace '\n' ',' (String.singleton ',') = String.singleton ',' := by decide
  simp only [fragments, Py.replace_append, hsep, hcomma]

theorem parse_of_fragments {a b c : String} (h : fragments c = fragments a ++ fragments b) :
    parseNumbersCsv c = joinParses (parseNumbersCsv a) (parseNumbersCsv b) := by
  simp only [parseNumbersCsv_eq, h, joinParses, List.filterMap_append, List.filter_append]

/-- **Parsing distributes over a comma or a newline**, so the lines typed at option 9, joined by
commas, parse as the lines one by one. -/
theorem parseNumbersCsv_append :
    (∀ a b, parseNumbersCsv (a ++ "," ++ b) =
      joinParses (parseNumbersCsv a) (parseNumbersCsv b)) ∧
    (∀ a b, parseNumbersCsv (a ++ "\n" ++ b) =
      joinParses (parseNumbersCsv a) (parseNumbersCsv b)) ∧
    (∀ lines, parseNumbersCsv (Py.join "," lines) =
      (lines.flatMap fun l => (parseNumbersCsv l).1, lines.flatMap fun l => (parseNumbersCsv l).2)) := by
  have hcomma : ∀ a b, parseNumbersCsv (a ++ "," ++ b) =
      joinParses (parseNumbersCsv a) (parseNumbersCsv b) :=
    fun a b => parse_of_fragments (fragments_append_sep a b)
  refine ⟨hcomma, fun a b => parse_of_fragments ((fragments_newline a b).trans
    (fragments_append_sep a b)), fun lines => ?_⟩
  induction lines with
  | nil => rfl
  | cons l ls ih =>
    cases ls with
    | nil => simp [Py.join]
    | cons l' ls =>
      rw [Py.join_cons_cons, hcomma, ih]
      simp [joinParses]

/-! ## Valid numbers read back -/

section ReadBack

variable {n : String} (hn : ValidNumber n)
include hn

theorem normalizeNumber_of_valid : normalizeNumber n = n := by
  show String.mk _ = n
  rw [List.filter_eq_self.mpr hn.2]
  rfl

theorem canonNumber_of_valid : canonNumber n = some n := by
  simp [canonNumber, normalizeNumber_of_valid hn, hn.1]

theorem fragments_of_valid : fragments n = [n] := by
  have hnot : ∀ sep, isDecimal sep = false → sep ∉ n.toList := fun sep hsep hmem => by
    rw [hn.2 sep hmem] at hsep
    cases hsep
  have hne : n.isEmpty = false := by
    rw [Bool.eq_false_iff, ne_eq, String.isEmpty_iff]
    rintro rfl
    exact absurd hn.1 (by decide)
  simp only [fragments, Py.replace_of_not_mem (hnot '\n' (by decide)),
    Py.split_of_not_mem (hnot ',' (by decide)),
    Py.strip_of_noSpace fun c hc => isSpace_of_isDecimal (hn.2 c hc), List.map_cons,
    List.map_nil, List.filter_cons, hne, Bool.not_false, if_true, List.filter_nil]

end ReadBack

theorem fragments_join_valid {nums : List String} (h : ∀ n ∈ nums, ValidNumber n) :
    fragments (Py.join "," nums) = nums := by
  induction nums with
  | nil => rfl
  | cons n rest ih =>
    have hrest := ih fun m hm => h m (List.mem_cons_of_mem n hm)
    cases rest with
    | nil => exact fragments_of_valid (h n (List.mem_singleton_self n))
    | cons m rest =>
      rw [Py.join_cons_cons]
      refine (fragments_append_sep n _).trans ?_
      rw [hrest, fragments_of_valid (h n (List.mem_cons_self n _))]
      rfl

/-- **Valid numbers read back.** A list of valid numbers written as the script reads a batch, joined
by commas, parses to itself with nothing reported invalid; so a batch the parse returns is a fixed
point of it. -/
theorem parseNumbersCsv_join_valid :
    (∀ nums : List String, (∀ n ∈ nums, ValidNumber n) →
      parseNumbersCsv (Py.join "," nums) = (nums, [])) ∧
    ∀ raw, parseNumbersCsv (Py.join "," (parseNumbersCsv raw).1) =
      ((parseNumbersCsv raw).1, []) := by
  have hread : ∀ nums : List String, (∀ n ∈ nums, ValidNumber n) →
      parseNumbersCsv (Py.join "," nums) = (nums, []) := by
    intro nums h
    have hcanon : ∀ n ∈ nums, canonNumber n = some n := fun n hn => canonNumber_of_valid (h n hn)
    rw [parseNumbersCsv_eq, fragments_join_valid h]
    refine Prod.ext ?_ (List.filter_eq_nil_iff.mpr fun n hn => by simp [hcanon n hn])
    calc nums.filterMap canonNumber = nums.filterMap some := List.filterMap_congr hcanon
      _ = nums := List.filterMap_some nums
  exact ⟨hread, fun raw => hread _ fun _ hn => parseNumbersCsv_valid hn⟩

end MsggwManager
