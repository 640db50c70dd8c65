import Mathlib.Data.List.Basic
import Mathlib.Data.List.Induction
import PeripheralBridge.CommandLine.HexArgument
import PeripheralBridge.CommandLine.PayloadView
import PeripheralBridge.Proofs.PrintedTable

/-!
# Octets as they are shown and as they are given

A text of digits is judged twice over: the argument is a text of characters, and the digits are
looked for among the octets of that text. The two agree because a character beyond the digits
has an octet that is no digit. What is given as an argument is then known exactly, and every way
to write the digits of a payload on the screen again is read as that payload.
-/

namespace PeripheralBridge

namespace Utf8

variable {c : Char} {cs : List Char}

theorem octets_cons_of_ascii (ascii : c.toNat < 128) :
    octets (c :: cs) = UInt8.ofNat c.toNat :: octets cs := by
  have one : String.utf8EncodeChar c = [UInt8.ofNat c.toNat] := if_pos (Nat.le_of_lt_succ ascii)
  rw [octets, List.flatMap_cons, one, List.singleton_append, octets]

theorem length_octets (ascii : ∀ c ∈ cs, c.toNat < 128) : (octets cs).length = cs.length := by
  induction cs with
  | nil => rfl
  | cons c cs ih =>
    simp only [List.forall_mem_cons] at ascii
    rw [octets_cons_of_ascii ascii.1, List.length_cons, ih ascii.2, List.length_cons]

end Utf8

namespace Hex

/-- The digits in the order of their values. -/
def lowerCase : List Char :=
  ['0', '1', '2', '3', '4', '5', '6', '7', '8', '9', 'a', 'b', 'c', 'd', 'e', 'f']

def upperCase : List Char :=
  ['0', '1', '2', '3', '4', '5', '6', '7', '8', '9', 'A', 'B', 'C', 'D', 'E', 'F']

/-- A digit of a value, in either case. -/
def IsDigit (value : Nat) (c : Char) : Prop :=
  lowerCase[value]? = some c ∨ upperCase[value]? = some c

instance (value : Nat) (c : Char) : Decidable (IsDigit value c) :=
  inferInstanceAs (Decidable (_ ∨ _))

/-- Two digits for each octet, the one of the higher half first. -/
inductive Spells : List Char → Bytes → Prop
  | nil : Spells [] []
  | cons {high low : Char} {digits : List Char} {octet : UInt8} {octets : Bytes}
      (upper : IsDigit (octet.toNat / 16) high) (lower : IsDigit (octet.toNat % 16) low)
      (rest : Spells digits octets) : Spells (high :: low :: digits) (octet :: octets)

variable {value : Nat} {c : Char} {digits cs : List Char} {octets b : Bytes}

theorem IsDigit.value_lt (digit : IsDigit value c) : value < 16 := by
  rcases digit with found | found <;> exact (List.getElem?_eq_some_iff.mp found).1

/-- Every digit stands in one of the tables. -/
theorem IsDigit.mem (digit : IsDigit value c) : c ∈ lowerCase ++ upperCase := by
  rcases digit with found | found
  · exact List.mem_append_left _ (List.mem_of_getElem? found)
  · exact List.mem_append_right _ (List.mem_of_getElem? found)

/-- What can be seen of every entry of the tables. -/
theorem forall_tables (P : Char → Prop) [DecidablePred P]
    (all : (lowerCase ++ upperCase).all (fun c => decide (P c)) = true)
    (mem : c ∈ lowerCase ++ upperCase) : P c :=
  of_decide_eq_true (List.all_eq_true.mp all c mem)

theorem IsDigit.ascii (digit : IsDigit value c) : c.toNat < 128 :=
  forall_tables (fun c => c.toNat < 128) (by decide) digit.mem

theorem IsDigit.not_blank (digit : IsDigit value c) : Blank.isBlank c = false :=
  forall_tables (fun c => Blank.isBlank c = false) (by decide) digit.mem

/-- The digits that are written are among those that are read. -/
theorem isDigit_digit (small : value < 16) : IsDigit value (digit value) := by
  have all : ∀ value < 16, IsDigit value (digit value) := by decide
  exact all value small

theorem value?_lt {octet : UInt8} (has : value? octet = some value) : value < 16 := by
  unfold value? at has
  grind

theorem isDigit_iff_value? (ascii : c.toNat < 128) :
    IsDigit value c ↔ value? (UInt8.ofNat c.toNat) = some value := by
  have all : ∀ n < 128, ∀ value < 16,
      IsDigit value (Char.ofNat n) ↔ value? (UInt8.ofNat n) = some value := by decide +kernel
  have here := all c.toNat ascii value
  rw [Char.ofNat_toNat] at here
  constructor
  · exact fun digit => (here digit.value_lt).mp digit
  · exact fun has => (here (value?_lt has)).mpr has

/-- Either case of a digit is told by its lower case. -/
theorem isDigit_iff_toLower : IsDigit value c ↔ lowerCase[value]? = some c.toLower := by
  rcases Nat.lt_or_ge c.toNat 128 with ascii | beyond
  · have all : ∀ n < 128, ∀ value < 16,
        IsDigit value (Char.ofNat n) ↔ lowerCase[value]? = some (Char.ofNat n).toLower := by
      decide +kernel
    have here := all c.toNat ascii value
    rw [Char.ofNat_toNat] at here
    constructor
    · exact fun digit => (here digit.value_lt).mp digit
    · exact fun found => (here (List.getElem?_eq_some_iff.mp found).1).mpr found
  · -- Only the letters up to Z have another lower case.
    have same : c.toLower = c := by
      unfold Char.toLower
      rw [dif_neg]
      rintro ⟨-, upTo⟩
      have : c.toNat ≤ 90 := upTo
      omega
    rw [same]
    exact ⟨fun digit => absurd digit.ascii (by omega), .inl⟩

namespace Spells

theorem mem_isDigit (spells : Spells digits b) : ∀ c ∈ digits, ∃ value, IsDigit value c := by
  induction spells with
  | nil => exact fun c mem => absurd mem List.not_mem_nil
  | cons upper lower rest ih =>
    intro c mem
    rcases List.mem_cons.mp mem with rfl | mem
    · exact ⟨_, upper⟩
    rcases List.mem_cons.mp mem with rfl | mem
    · exact ⟨_, lower⟩
    exact ih c mem

theorem mem_tables (spells : Spells digits b) : ∀ c ∈ digits, c ∈ lowerCase ++ upperCase :=
  fun c mem => (spells.mem_isDigit c mem).elim fun _ digit => digit.mem

theorem length_even (spells : Spells digits b) : digits.length % 2 = 0 := by
  induction spells with
  | nil => rfl
  | cons upper lower rest ih =>
    simp only [List.length_cons]
    omega

/-- Any two digits make an octet. -/
theorem pair {h l : Nat} {high low : Char} (upper : IsDigit h high) (lower : IsDigit l low)
    (rest : Spells digits b) : Spells (high :: low :: digits) (UInt8.ofNat (16 * h + l) :: b) := by
  have hs := upper.value_lt
  have ls := lower.value_lt
  have made : (UInt8.ofNat (16 * h + l)).toNat = 16 * h + l := by
    rw [UInt8.toNat_ofNat', Nat.mod_eq_of_lt (by omega)]
  refine .cons ?_ ?_ rest
  · rwa [made, show (16 * h + l) / 16 = h by omega]
  · rwa [made, show (16 * h + l) % 16 = l by omega]

/-- What is written for some octets are digits of them. -/
theorem encode (b : Bytes) : Spells (Hex.encode b) b := by
  induction b with
  | nil => exact .nil
  | cons octet octets ih =>
    have bound := octet.toNat_lt
    exact .cons (isDigit_digit (by omega)) (isDigit_digit (by omega)) ih

end Spells

/-- Digits in even number, and nothing else, are digits of some octets. -/
theorem exists_spells_iff :
    (∃ b, Spells digits b) ↔ digits.length % 2 = 0 ∧ ∀ c ∈ digits, ∃ value, IsDigit value c := by
  constructor
  · rintro ⟨b, spells⟩
    exact ⟨spells.length_even, spells.mem_isDigit⟩
  · rintro ⟨even, all⟩
    induction digits using List.twoStepInduction with
    | nil => exact ⟨[], .nil⟩
    | singleton c => cases even
    | cons_cons high low digits ih _ =>
      simp only [List.forall_mem_cons] at all
      obtain ⟨⟨h, upper⟩, ⟨l, lower⟩, others⟩ := all
      obtain ⟨b, rest⟩ := ih (by simp only [List.length_cons] at even; omega) others
      exact ⟨_, .pair upper lower rest⟩

/-- A pair of octets is read where both of them are digits, and only there. -/
theorem decodePairs_cons_iff {index : Nat} {high low : UInt8} {rest : Bytes} :
    decodePairs index (high :: low :: rest) = .ok b ↔
      ∃ h l octets, value? high = some h ∧ value? low = some l ∧
        decodePairs (index + 2) rest = .ok octets ∧ b = UInt8.ofNat (16 * h + l) :: octets := by
  rw [decodePairs]
  cases value? high with
  | none => simp
  | some h =>
    cases value? low with
    | none => simp
    | some l =>
      cases decodePairs (index + 2) rest with
      | error e => simp [bind, Except.bind]
      | ok octets => simp [bind, Except.bind, pure, Except.pure, eq_comm]

theorem values_of_decodePairs {index : Nat} (even : octets.length % 2 = 0)
    (reads : decodePairs index octets = .ok b) : ∀ o ∈ octets, ∃ value, value? o = some value := by
  induction octets using List.twoStepInduction generalizing index b with
  | nil => exact List.forall_mem_nil _
  | singleton o => cases even
  | cons_cons high low rest ih _ =>
    obtain ⟨h, l, _, ofHigh, ofLow, behind, -⟩ := decodePairs_cons_iff.mp reads
    have others := ih (by simp only [List.length_cons] at even; omega) behind
    simp only [List.forall_mem_cons]
    exact ⟨⟨h, ofHigh⟩, ⟨l, ofLow⟩, others⟩

/-- A longer character begins with an octet that is no digit. -/
theorem exists_octet_of_not_ascii (mem : c ∈ cs) (beyond : 128 ≤ c.toNat) :
    ∃ octet ∈ Utf8.octets cs, value? octet = none := by
  have large : ∃ octet ∈ String.utf8EncodeChar c, 128 ≤ octet.toNat := by
    have long : ¬ c.val.toNat ≤ 127 := Nat.not_le_of_lt beyond
    simp only [String.utf8EncodeChar, if_neg long]
    split_ifs <;> exact ⟨_, List.mem_cons_self, by rw [UInt8.toNat_ofNat']; omega⟩
  obtain ⟨octet, first, large⟩ := large
  refine ⟨octet, List.mem_flatMap.mpr ⟨c, mem, first⟩, ?_⟩
  unfold value?
  grind

/-- Such text has one octet for each character, so pairs of octets are pairs of digits. -/
theorem decodePairs_iff {index : Nat} (ascii : ∀ c ∈ cs, c.toNat < 128)
    (even : cs.length % 2 = 0) : decodePairs index (Utf8.octets cs) = .ok b ↔ Spells cs b := by
  -- Two characters at a time, as they are read.
  induction cs using List.twoStepInduction generalizing index b with
  | nil =>
    constructor
    · rintro ⟨⟩
      exact .nil
    · rintro ⟨⟩
      rfl
  | singleton c => cases even
  | cons_cons high low rest ih _ =>
    simp only [List.forall_mem_cons] at ascii
    obtain ⟨highAscii, lowAscii, others⟩ := ascii
    rw [Utf8.octets_cons_of_ascii highAscii, Utf8.octets_cons_of_ascii lowAscii,
      decodePairs_cons_iff]
    simp only [← isDigit_iff_value? highAscii, ← isDigit_iff_value? lowAscii,
      ih others (by simp only [List.length_cons] at even; omega)]
    constructor
    · rintro ⟨h, l, octets, upper, lower, behind, rfl⟩
      exact .pair upper lower behind
    · intro spells
      cases spells with
      | @cons _ _ _ octet octets upper lower behind =>
        refine ⟨_, _, octets, upper, lower, behind, ?_⟩
        rw [Nat.div_add_mod, UInt8.ofNat_toNat]

/-- The octets of a text of digits are read, and no others. -/
theorem decode_octets_iff : decode (Utf8.octets cs) = .ok b ↔ Spells cs b := by
  constructor
  · intro reads
    have even : ¬ (Utf8.octets cs).length % 2 = 1 := by
      intro odd
      rw [decode, if_pos odd] at reads
      cases reads
    rw [decode, if_neg even] at reads
    -- Every octet is a digit, so there is no longer character.
    have values := values_of_decodePairs (by omega) reads
    have ascii : ∀ c ∈ cs, c.toNat < 128 := by
      intro c mem
      by_contra beyond
      obtain ⟨octet, there, none⟩ := exists_octet_of_not_ascii mem (by omega)
      obtain ⟨value, some⟩ := values octet there
      rw [none] at some
      cases some
    rw [Utf8.length_octets ascii] at even
    exact (decodePairs_iff ascii (by omega)).mp reads
  · intro spells
    have ascii : ∀ c ∈ cs, c.toNat < 128 := fun c mem =>
      (spells.mem_isDigit c mem).elim fun _ digit => digit.ascii
    have even := spells.length_even
    rw [decode, if_neg (by rw [Utf8.length_octets ascii]; omega)]
    exact (decodePairs_iff ascii even).mpr spells

end Hex

namespace CommandLine

namespace HexArgument

open Hex

/-- What may stand before the digits. -/
def markers : List (List Char) := [[], ['0', 'x'], ['0', 'X']]

/-- The same letter but for its case, or the same character. -/
def SameLetter (c d : Char) : Prop := c.toLower = d.toLower

/-- Blanks put in anywhere. -/
inductive Interspersed : List Char → List Char → Prop
  | nil : Interspersed [] []
  | keep (c : Char) {cs ds : List Char} (rest : Interspersed cs ds) :
      Interspersed (c :: cs) (c :: ds)
  | blank {c : Char} {cs ds : List Char} (isBlank : Blank.isBlank c = true)
      (rest : Interspersed cs ds) : Interspersed cs (c :: ds)

/-- A text in other cases, behind a marker or none, with blanks put in anywhere. -/
def Respells (printed s : String) : Prop :=
  ∃ marker ∈ markers, ∃ digits, List.Forall₂ SameLetter printed.toList digits ∧
    Interspersed (marker ++ digits) s.toList

/-- The blanks are found again, wherever they were put. -/
theorem Interspersed.filter {cs ds : List Char} (blanks : Interspersed cs ds)
    (solid : ∀ c ∈ cs, Blank.isBlank c = false) : ds.filter (fun c => !Blank.isBlank c) = cs := by
  induction blanks with
  | nil => rfl
  | keep c rest ih =>
    simp only [List.forall_mem_cons] at solid
    rw [List.filter_cons_of_pos (by rw [solid.1]; rfl), ih solid.2]
  | blank isBlank rest ih =>
    rw [List.filter_cons_of_neg (by rw [isBlank]; decide), ih solid]

theorem marker_solid {marker : List Char} (known : marker ∈ markers) :
    ∀ c ∈ marker, Blank.isBlank c = false := by
  have all : ∀ marker ∈ markers, marker.all (fun c => !Blank.isBlank c) = true := by decide
  simpa using all marker known

/-- Dropping a marker drops one of those that are known. -/
theorem exists_marker (cs : List Char) : ∃ marker ∈ markers, cs = marker ++ unmarked cs := by
  fun_cases unmarked cs with
  | case1 digits => exact ⟨['0', 'x'], by decide, rfl⟩
  | case2 digits => exact ⟨['0', 'X'], by decide, rfl⟩
  | case3 => exact ⟨[], by decide, rfl⟩

/-- The letter of a marker is no digit, so digits are never taken for a marker. -/
theorem unmarked_of_spells {digits : List Char} {b : Bytes} (spells : Spells digits b) :
    unmarked digits = digits := by
  fun_cases unmarked digits with
  | case1 => exact absurd (spells.mem_tables 'x' (by simp)) (by decide)
  | case2 => exact absurd (spells.mem_tables 'X' (by simp)) (by decide)
  | case3 => rfl

theorem unmarked_spells_iff {cs : List Char} {b : Bytes} :
    Spells (unmarked cs) b ↔
      ∃ marker ∈ markers, ∃ digits, cs = marker ++ digits ∧ Spells digits b := by
  constructor
  · intro spells
    obtain ⟨marker, known, same⟩ := exists_marker cs
    exact ⟨marker, known, unmarked cs, same, spells⟩
  · rintro ⟨marker, known, digits, rfl, spells⟩
    simp only [markers, List.mem_cons, List.not_mem_nil, or_false] at known
    rcases known with rfl | rfl | rfl
    · rw [List.nil_append, unmarked_of_spells spells]
      exact spells
    · exact spells
    · exact spells

theorem read_iff {s : String} {b : Bytes} :
    read s = .ok b ↔ ∃ marker ∈ markers, ∃ digits,
      s.toList.filter (fun c => !Blank.isBlank c) = marker ++ digits ∧ Spells digits b :=
  decode_octets_iff.trans unmarked_spells_iff

/-- A change of case does not change what is spelled. -/
theorem spells_of_sameLetter {cs ds : List Char} {b : Bytes} (spells : Spells cs b)
    (same : List.Forall₂ SameLetter cs ds) : Spells ds b := by
  induction spells generalizing ds with
  | nil =>
    cases same
    exact .nil
  | cons upper lower rest ih =>
    rcases same with _ | ⟨high, _ | ⟨low, same⟩⟩
    refine .cons ?_ ?_ (ih same)
    · rwa [isDigit_iff_toLower, ← high, ← isDigit_iff_toLower]
    · rwa [isDigit_iff_toLower, ← low, ← isDigit_iff_toLower]

theorem read_respelled {b : Bytes} {s : String} (respells : Respells (Hex.text b) s) :
    read s = .ok b := by
  obtain ⟨marker, known, digits, same, blanks⟩ := respells
  rw [Hex.text, String.toList_ofList] at same
  have spells := spells_of_sameLetter (.encode b) same
  refine read_iff.mpr ⟨marker, known, digits, blanks.filter ?_, spells⟩
  intro c mem
  rcases List.mem_append.mp mem with mem | mem
  · exact marker_solid known c mem
  · exact (spells.mem_isDigit c mem).elim fun _ digit => digit.not_blank

end HexArgument

/-- The digits of a payload stand on the screen under their name: as a field of an object, as what
is read down a column of a table, or as a part of a line. -/
def ShowsDigits (digits : String) (screen : Bytes) : OutputFormat → Prop
  | .json => Utf8.encode ("\"hex\":\"" ++ digits ++ "\"") <:+: screen
  | .table => ∃ text : List Char, screen = Utf8.octets text ∧
      PrintedTable.title 1 text = "HEX".toList ∧ PrintedTable.contents 1 text = digits.toList
  | .pretty => Utf8.encode (" hex=" ++ digits ++ " ") <:+: screen
  | .raw => False

theorem infix_intercalate (sep : String) {s : String} {l : List String} (mem : s ∈ l) :
    s.toList <:+: (sep.intercalate l).toList := by
  induction l with
  | nil => cases mem
  | cons t l ih =>
    cases l with
    | nil =>
      obtain rfl := List.mem_singleton.mp mem
      simp only [String.intercalate_singleton, List.infix_rfl]
    | cons u l =>
      rw [String.intercalate_cons_cons, String.toList_append, String.toList_append]
      rcases List.mem_cons.mp mem with rfl | mem
      · rw [List.append_assoc]
        exact (List.prefix_append _ _).isInfix
      · exact (ih mem).trans (List.suffix_append _ _).isInfix

theorem infix_encode {s t : String} (part : s.toList <:+: t.toList) :
    Utf8.encode s <:+: Utf8.encode t := by
  obtain ⟨before, after, whole⟩ := part
  refine ⟨Utf8.octets before, Utf8.octets after, ?_⟩
  simp only [Utf8.encode, Utf8.octets, ← whole, List.flatMap_append]

/-- No digit is escaped. -/
theorem quoted_digits (b : Bytes) :
    JsonText.quoted (Hex.text b) = "\"" ++ Hex.text b ++ "\"" := by
  have plain : ∀ c ∈ Hex.encode b, JsonText.escape c = [c] := fun c mem =>
    Hex.forall_tables (fun c => JsonText.escape c = [c]) (by decide)
      ((Hex.Spells.encode b).mem_tables c mem)
  have same : (Hex.encode b).flatMap JsonText.escape = Hex.encode b :=
    (List.flatMap_congr plain).trans (List.flatMap_singleton' _)
  apply String.toList_injective
  simp only [JsonText.quoted, Hex.text, String.toList_ofList, same, String.toList_append]
  rfl

/-- Every field of an object is written somewhere in it. -/
theorem field_infix_object {fields : List (String × String)} {name value : String}
    (mem : (name, value) ∈ fields) :
    (JsonText.quoted name ++ ":" ++ value).toList <:+: (JsonText.object fields).toList := by
  have written : JsonText.quoted name ++ ":" ++ value ∈
      fields.map fun f => JsonText.quoted f.1 ++ ":" ++ f.2 := List.mem_map.mpr ⟨_, mem, rfl⟩
  refine (infix_intercalate "," written).trans ?_
  rw [JsonText.object, String.toList_append, String.toList_append]
  exact List.infix_append _ _ _

theorem json_shows (command : String) (payload : Bytes) :
    ("\"hex\":\"" ++ Hex.text payload ++ "\"").toList <:+:
      (PayloadView.ofPayload command payload).json.toList := by
  have field : JsonText.quoted "hex" ++ ":" ++ JsonText.quoted (Hex.text payload) =
      "\"hex\":\"" ++ Hex.text payload ++ "\"" := by
    rw [quoted_digits, ← String.append_assoc, ← String.append_assoc]
    rfl
  rw [← field, PayloadView.json]
  apply field_infix_object
  exact List.mem_cons_of_mem _ (List.mem_cons_of_mem _ List.mem_cons_self)

theorem summary_shows (command : String) (payload : Bytes) :
    (" hex=" ++ Hex.text payload ++ " ").toList <:+:
      (PayloadView.ofPayload command payload).summary.toList := by
  let v := PayloadView.ofPayload command payload
  have whole : v.summary = ("size=" ++ toString v.size) ++ (" hex=" ++ v.digits ++ " ") ++
      ("text=" ++ v.preview) := by
    have name : " text=" = " " ++ "text=" := rfl
    simp only [PayloadView.summary, name, String.append_assoc]
  refine ⟨("size=" ++ toString v.size).toList, ("text=" ++ v.preview).toList, ?_⟩
  rw [whole]
  simp only [String.toList_append]
  rfl

/-- A number stands in a cell as one line of digits. -/
theorem isDigit_of_mem_toString {n : Nat} {c : Char} (mem : c ∈ (toString n).toList) :
    c.isDigit = true := by
  have digits : (toString n).toList = Nat.toDigits 10 n := Nat.toList_repr
  rw [digits] at mem
  exact Nat.isDigit_of_mem_toDigits (by decide) (by decide) mem

theorem preview_unbroken (v : PayloadView) : '\n' ∉ v.preview.toList := by
  unfold PayloadView.preview
  split
  next text plain =>
    intro broken
    have calm := Option.filter_eq_some_iff.mp plain
    simp only [Bool.not_eq_true', List.any_eq_false] at calm
    exact absurd (by decide : isControl '\n' = true) (calm.2 '\n' broken)
  next =>
    intro broken
    simp only [String.toList_append, List.mem_append] at broken
    rcases broken with (before | number) | behind
    · exact absurd before (by decide)
    · exact absurd (isDigit_of_mem_toString number) (by decide)
    · exact absurd behind (by decide)

/-- No digit is a space, ends a line or divides cells. -/
theorem digits_plain (payload : Bytes) :
    ∀ c ∈ (Hex.text payload).toList, c ≠ ' ' ∧ c ≠ '\n' ∧ c ≠ '┆' := by
  intro c mem
  rw [Hex.text, String.toList_ofList] at mem
  exact Hex.forall_tables (fun c => c ≠ ' ' ∧ c ≠ '\n' ∧ c ≠ '┆') (by decide)
    ((Hex.Spells.encode payload).mem_tables c mem)

theorem table_legible (command : String) (payload : Bytes) :
    (PayloadView.ofPayload command payload).table.Legible 1 := by
  have number : ∀ c : Char, c.isDigit = false → c ∉ (toString payload.length).toList :=
    fun c none mem => absurd (isDigit_of_mem_toString mem) (by simp [none])
  have digits := digits_plain payload
  constructor
  case even => simp [PayloadView.table]
  case there => exact (by decide : 1 < 3)
  case unbroken =>
    simp only [PayloadView.table, List.forall_mem_cons]
    refine ⟨⟨by decide, by decide, by decide, by simp⟩, ⟨number _ rfl, ?_, ?_, by simp⟩, by simp⟩
    · exact fun mem => (digits _ mem).2.1 rfl
    · exact preview_unbroken _
  case undivided =>
    simp only [PayloadView.table, List.forall_mem_cons, List.take_succ_cons, List.take_zero]
    refine ⟨⟨by decide, by decide, by simp⟩, ⟨number _ rfl, ?_, by simp⟩, by simp⟩
    exact fun mem => (digits _ mem).2.2 rfl

theorem showPayload_shows (arrange : Table.Arrangement) (command : String) (payload : Bytes)
    {format : OutputFormat} (text : format ≠ .raw) :
    ShowsDigits (Hex.text payload) (showPayload arrange command payload format) format := by
  have ended (s : String) : s.toList <:+: (line s).toList := by
    rw [line, String.toList_append]
    exact (List.prefix_append _ _).isInfix
  cases format with
  | json => exact infix_encode ((json_shows command payload).trans (ended _))
  | table =>
    obtain ⟨title, contents⟩ := Table.column_read arrange (table_legible command payload)
    have cell : ink (Hex.text payload).toList = (Hex.text payload).toList :=
      List.filter_eq_self.mpr fun c mem => by simpa using (digits_plain payload c mem).1
    have heading : ink "HEX".toList = "HEX".toList := by decide
    exact ⟨_, rfl, title.trans heading, contents.trans ((List.append_nil _).trans cell)⟩
  | pretty => exact infix_encode ((summary_shows command payload).trans (ended _))
  | raw => exact absurd rfl text

namespace HexArgument

open Hex

/-- An argument is read as some octets exactly where it has, without its blanks, their digits behind
at most one marker; that is, where an even number of digits is left and nothing else. The digits by
which a payload is shown are such an argument, however their case is changed, and also with a marker
before them and blanks among them. -/
theorem hex_arguments_exact :
    (∀ (s : String) (b : Bytes), read s = .ok b ↔ ∃ marker ∈ markers, ∃ digits,
      s.toList.filter (fun c => !Blank.isBlank c) = marker ++ digits ∧ Spells digits b) ∧
    (∀ s : String, (∃ b, read s = .ok b) ↔ ∃ marker ∈ markers, ∃ digits,
      s.toList.filter (fun c => !Blank.isBlank c) = marker ++ digits ∧
        digits.length % 2 = 0 ∧ ∀ c ∈ digits, ∃ value, IsDigit value c) ∧
    ∀ (command : String) (payload : Bytes),
      (∀ arrange format, format ≠ .raw →
        ShowsDigits (Hex.text payload) (showPayload arrange command payload format) format) ∧
      ∀ s, Respells (Hex.text payload) s → read s = .ok payload := by
  refine ⟨fun s b => read_iff, fun s => ?_, fun command payload => ⟨?_, ?_⟩⟩
  · simp only [read_iff, ← exists_spells_iff]
    constructor
    · rintro ⟨b, marker, known, digits, compact, spells⟩
      exact ⟨marker, known, digits, compact, b, spells⟩
    · rintro ⟨marker, known, digits, compact, b, spells⟩
      exact ⟨b, marker, known, digits, compact, spells⟩
  · exact fun arrange format text => showPayload_shows arrange command payload text
  · exact fun s respells => read_respelled respells

/-- Blanks inside the marker and between the digits of an octet, and digits of both cases. In a
table of narrow columns the digits take several lines. -/
theorem hex_arguments_exact_respelled :
    Respells (Hex.text [0xAB, 0x0C]) " 0 Xa\u2003B0C\t" ∧
      read " 0 Xa\u2003B0C\t" = .ok [0xAB, 0x0C] ∧ OutputFormat.table ≠ .raw ∧
      ShowsDigits (Hex.text [0xAB, 0x0C])
        (showPayload (fun _ _ => 3) "call" [0xAB, 0x0C] .table) .table ∧
      ShowsDigits (Hex.text [0xAB, 0x0C])
        (showPayload Table.unbounded "call" [0xAB, 0x0C] .json) .json := by
  have blanks : Interspersed ['0', 'X', 'a', 'B', '0', 'C'] " 0 Xa\u2003B0C\t".toList :=
    .blank rfl (.keep _ (.blank rfl (.keep _ (.keep _ (.blank rfl (.keep _ (.keep _ (.keep _
      (.blank rfl .nil)))))))))
  have respells : Respells (Hex.text [0xAB, 0x0C]) " 0 Xa\u2003B0C\t" :=
    ⟨['0', 'X'], by decide, ['a', 'B', '0', 'C'],
      .cons rfl (.cons rfl (.cons rfl (.cons rfl .nil))), blanks⟩
  obtain ⟨shows, reads⟩ := hex_arguments_exact.2.2 "call" [0xAB, 0x0C]
  exact ⟨respells, reads _ respells, by decide, shows _ .table (by decide),
    shows _ .json (by decide)⟩

/-- One marker is dropped and no second one. -/
example : read "0x 0x41" = .error (.invalidCharacter 120 1) := by rfl

end HexArgument

end CommandLine

end PeripheralBridge
