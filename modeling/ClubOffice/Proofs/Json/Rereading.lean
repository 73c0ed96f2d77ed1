import ClubOffice.Json.Printer
import ClubOffice.Json.Reader
import ClubOffice.Proofs.Text.Spelling

/-!
# JSON is read as it is written

A value that is written is read again as the same value, whatever its strings hold, as long as its
numbers are numerals. In a value the written form of a part is followed by a comma or a closing
bracket, with which no number goes on.
-/

namespace ClubOffice.Json

open Text (Breaks takeWhile_digits)

variable {fuel : Nat} {text left rest digits : List Char}

/-- Whether a text does not go on with what a number can go on with. -/
def Stops (rest : List Char) : Prop :=
  ∀ c ∈ rest.head?, c.isDigit = false ∧ c ≠ '.' ∧ ¬(c = 'e' ∨ c = 'E')

theorem stops_nil : Stops [] := by
  rintro _ ⟨⟩

theorem stops_cons {c : Char} (ends : c.isDigit = false ∧ c ≠ '.' ∧ ¬(c = 'e' ∨ c = 'E')) :
    Stops (c :: rest) := by
  rintro _ ⟨⟩
  exact ends

section Numbers

theorem Stops.breaks (stops : Stops rest) : Breaks rest := fun c first => (stops c first).1

theorem takeWhile_append_of_breaks (breaks : Breaks rest) :
    (text ++ rest).takeWhile Char.isDigit = text.takeWhile Char.isDigit := by
  rw [List.takeWhile_append]
  split
  · rename_i whole
    have same : text.takeWhile Char.isDigit = text :=
      (List.takeWhile_prefix _).eq_of_length whole
    have none : rest.takeWhile Char.isDigit = [] :=
      takeWhile_digits (List.forall_mem_nil _) breaks
    rw [none, List.append_nil, same]
  · rfl

theorem readDigitRun_append (read : readDigitRun text = some (digits, left))
    (breaks : Breaks rest) : readDigitRun (text ++ rest) = some (digits, left ++ rest) := by
  have short : (text.takeWhile Char.isDigit).length ≤ text.length :=
    (List.takeWhile_prefix _).length_le
  simp only [readDigitRun, takeWhile_append_of_breaks breaks, List.drop_append_of_le_length short]
    at read ⊢
  split at read
  · cases read
  · rename_i some
    rw [if_neg some]
    cases read
    rfl

theorem map_readDigitRun_append (lead : List Char → List Char)
    (read : (readDigitRun text).map (fun (run, rest) => (lead run, rest)) = some (digits, left))
    (breaks : Breaks rest) :
    (readDigitRun (text ++ rest)).map (fun (run, rest) => (lead run, rest)) =
      some (digits, left ++ rest) := by
  obtain ⟨⟨run, after⟩, some, same⟩ := Option.map_eq_some_iff.1 read
  cases same
  rw [readDigitRun_append some breaks, Option.map_some]

theorem readWhole_append (read : readWhole text = some (digits, left)) (breaks : Breaks rest) :
    readWhole (text ++ rest) = some (digits, left ++ rest) := by
  unfold readWhole at read
  split at read
  · rename_i text
    split at read
    · rename_i alone
      cases read
      simp only [List.cons_append, readWhole, takeWhile_append_of_breaks breaks, alone, if_true]
    · cases read
  · rename_i other
    have longer := readDigitRun_append read breaks
    cases text with
    | nil => cases read
    | cons c text =>
        unfold readWhole
        split
        · rename_i same
          cases same
          exact absurd rfl (other text)
        · exact longer

theorem readPoint_append (read : readPoint text = some (digits, left)) (stops : Stops rest) :
    readPoint (text ++ rest) = some (digits, left ++ rest) := by
  unfold readPoint at read
  split at read
  · exact map_readDigitRun_append ('.' :: ·) read stops.breaks
  · rename_i other
    cases read
    unfold readPoint
    split
    · rename_i after same
      cases text with
      | nil =>
          rw [List.nil_append] at same
          exact absurd rfl (stops '.' (by rw [same]; rfl)).2.1
      | cons c text =>
          cases same
          exact absurd rfl (other text)
    · rfl

theorem readExponent_append (read : readExponent text = some (digits, left))
    (stops : Stops rest) : readExponent (text ++ rest) = some (digits, left ++ rest) := by
  cases text with
  | nil =>
      cases read
      cases rest with
      | nil => rfl
      | cons c rest => exact if_neg (stops c rfl).2.2
  | cons c text =>
      rw [List.cons_append]
      unfold readExponent at read ⊢
      dsimp only at read ⊢
      by_cases mark : c = 'e' ∨ c = 'E'
      · rw [if_pos mark] at read ⊢
        split at read
        · exact map_readDigitRun_append (c :: '+' :: ·) read stops.breaks
        · exact map_readDigitRun_append (c :: '-' :: ·) read stops.breaks
        · rename_i plus minus
          have longer := map_readDigitRun_append (c :: ·) read stops.breaks
          cases text with
          | nil => cases read
          | cons d text =>
              split
              · rename_i same
                cases same
                exact absurd rfl (plus text)
              · rename_i same
                cases same
                exact absurd rfl (minus text)
              · exact longer
      · rw [if_neg mark] at read ⊢
        cases read
        rfl

/-- Reads a number from where its sign ends. -/
def readUnsigned (sign text : List Char) : Option (String × List Char) := do
  let (whole, text) ← readWhole text
  let (point, text) ← readPoint text
  let (exponent, text) ← readExponent text
  some (String.ofList (sign ++ whole ++ point ++ exponent), text)

theorem readNumber_minus (text : List Char) :
    readNumber ('-' :: text) = readUnsigned ['-'] text := rfl

theorem readNumber_plain {c : Char} (plain : c ≠ '-') (text : List Char) :
    readNumber (c :: text) = readUnsigned [] (c :: text) := by
  unfold readNumber
  split
  rename_i sign
  split at sign
  · rename_i same
    cases same
    exact absurd rfl plain
  · cases sign
    rfl

theorem readUnsigned_append {sign : List Char} {numeral : String}
    (read : readUnsigned sign text = some (numeral, left)) (stops : Stops rest) :
    readUnsigned sign (text ++ rest) = some (numeral, left ++ rest) := by
  simp only [readUnsigned, Option.bind_eq_bind, Option.bind_eq_some_iff] at read
  obtain ⟨⟨whole, afterWhole⟩, whole_read, ⟨point, afterPoint⟩, point_read,
    ⟨exponent, afterExponent⟩, exponent_read, same⟩ := read
  cases same
  simp only [readUnsigned, readWhole_append whole_read stops.breaks,
    readPoint_append point_read stops, readExponent_append exponent_read stops,
    Option.bind_eq_bind, Option.bind_some]

theorem readNumber_append {numeral : String} (read : readNumber text = some (numeral, left))
    (stops : Stops rest) : readNumber (text ++ rest) = some (numeral, left ++ rest) := by
  cases text with
  | nil => cases read
  | cons c text =>
      by_cases minus : c = '-'
      · subst minus
        rw [readNumber_minus] at read
        rw [List.cons_append, readNumber_minus]
        exact readUnsigned_append read stops
      · rw [readNumber_plain minus] at read
        rw [List.cons_append, readNumber_plain minus]
        exact readUnsigned_append read stops

/-- A number starts with a sign or a digit. -/
theorem head_of_readNumber {numeral : String} {c : Char}
    (read : readNumber (c :: text) = some (numeral, left)) : c = '-' ∨ c.isDigit = true := by
  refine Decidable.or_iff_not_imp_left.2 fun plain => ?_
  rw [readNumber_plain plain] at read
  simp only [readUnsigned, Option.bind_eq_bind, Option.bind_eq_some_iff] at read
  obtain ⟨⟨whole, afterWhole⟩, whole_read, -⟩ := read
  unfold readWhole at whole_read
  split at whole_read
  · rename_i same
    cases same
    rfl
  · by_contra other
    rw [readDigitRun, List.takeWhile_cons_of_neg other] at whole_read
    cases whole_read

end Numbers

section Strings

theorem hexDigit?_digitChar {n : Nat} (small : n < 16) : hexDigit? (Nat.digitChar n) = some n := by
  revert n
  decide

/-- A control character is read of the two digits of its code. -/
theorem readEscapedUnit_control {n : Nat} (control : n < 32) (text : List Char) :
    readEscapedUnit ('0' :: '0' :: Nat.digitChar (n / 16) :: Nat.digitChar (n % 16) :: text) =
      some (some (Char.ofNat n), text) := by
  have zero : hexDigit? '0' = some 0 := by decide
  have high : hexDigit? (Nat.digitChar (n / 16)) = some (n / 16) := hexDigit?_digitChar (by omega)
  have low : hexDigit? (Nat.digitChar (n % 16)) = some (n % 16) := hexDigit?_digitChar (by omega)
  have code : 16 * (n / 16) + n % 16 = n := Nat.div_add_mod n 16
  have unit : readUnit ('0' :: '0' :: Nat.digitChar (n / 16) :: Nat.digitChar (n % 16) :: text) =
      some (n, text) := by
    simp [readUnit, zero, high, low, code]
  have notHigh : isHighSurrogate n = false := by
    simp only [isHighSurrogate, Bool.and_eq_false_iff, decide_eq_false_iff_not]
    omega
  have notLow : isLowSurrogate n = false := by
    simp only [isLowSurrogate, Bool.and_eq_false_iff, decide_eq_false_iff_not]
    omega
  simp [readEscapedUnit, unit, notHigh, notLow]

theorem readChars_escape {c : Char} (escape : List Char)
    (read : readEscape (escape ++ rest) = some (some c, rest)) :
    readChars (fuel + 1) ('\\' :: escape ++ rest) =
      (readChars fuel rest).map fun (others, left) => (some c :: others, left) := by
  simp only [List.cons_append, readChars, read, Option.bind_eq_bind, Option.bind_some]
  cases readChars fuel rest <;> rfl

theorem readChars_plain {c : Char} (quote : c ≠ '"') (backslash : c ≠ '\\')
    (printable : ¬ c.toNat < 0x20) : readChars (fuel + 1) (c :: rest) =
      (readChars fuel rest).map fun (others, left) => (some c :: others, left) := by
  rw [readChars, if_neg printable]
  · cases readChars fuel rest <;> rfl
  · exact quote
  · exact backslash

/-- However a character is escaped, it is read as itself. -/
theorem readChars_escaped (c : Char) (rest : List Char) :
    readChars (fuel + 1) (escaped c ++ rest) =
      (readChars fuel rest).map fun (others, left) => (some c :: others, left) := by
  have code : Char.ofNat c.toNat = c := Char.ofNat_toNat c
  unfold escaped
  split_ifs with quote backslash newline carriage tab backspace feed control
  · exact readChars_escape ['"'] (by rw [quote]; rfl)
  · exact readChars_escape ['\\'] (by rw [backslash]; rfl)
  · exact readChars_escape ['n'] (by rw [newline]; rfl)
  · exact readChars_escape ['r'] (by rw [carriage]; rfl)
  · exact readChars_escape ['t'] (by rw [tab]; rfl)
  · exact readChars_escape ['b'] (by rw [← code, backspace]; rfl)
  · exact readChars_escape ['f'] (by rw [← code, feed]; rfl)
  · have read := readEscapedUnit_control control rest
    rw [code] at read
    exact readChars_escape ['u', '0', '0', _, _] read
  · exact readChars_plain quote backslash control

theorem length_escaped_pos (c : Char) : 0 < (escaped c).length := by
  unfold escaped
  split_ifs <;> exact Nat.succ_pos _

theorem readChars_flatMap (chars rest : List Char) (enough : chars.length < fuel) :
    readChars fuel (chars.flatMap escaped ++ '"' :: rest) = some (chars.map some, rest) := by
  induction chars generalizing fuel with
  | nil =>
      obtain ⟨fuel, rfl⟩ := Nat.exists_eq_add_of_lt enough
      rfl
  | cons c chars ih =>
      cases fuel with
      | zero => cases enough
      | succ fuel =>
          rw [List.flatMap_cons, List.append_assoc, readChars_escaped,
            ih (Nat.lt_of_succ_lt_succ enough)]
          rfl

theorem length_le_flatMap_escaped (chars : List Char) :
    chars.length ≤ (chars.flatMap escaped).length := by
  induction chars with
  | nil => exact Nat.le_refl 0
  | cons c chars ih =>
      have one := length_escaped_pos c
      rw [List.flatMap_cons, List.length_append, List.length_cons]
      omega

theorem mapM_id_some (chars : List Char) : (chars.map some).mapM id = some chars := by
  have same : id ∘ some = fun c : Char => (pure c : Option Char) := rfl
  rw [List.mapM_map, same, List.mapM_pure, List.map_id']
  rfl

/-- A string is read as it is written, from after its opening quote. A string that stands for no text
is read as such. -/
theorem readString_writeString (text : Text) : ∃ body, writeString text = '"' :: body ∧
    ∀ rest, readString (body ++ rest) = some (text, rest) := by
  cases text with
  | none => exact ⟨"\\ud800".toList ++ ['"'], rfl, fun rest => rfl⟩
  | some text =>
      refine ⟨text.toList.flatMap escaped ++ ['"'], rfl, fun rest => ?_⟩
      have longer := length_le_flatMap_escaped text.toList
      rw [readString, List.append_assoc, List.singleton_append,
        readChars_flatMap _ _ (by rw [List.length_append]; omega)]
      simp only [Option.bind_eq_bind, Option.bind_some, mapM_id_some, Option.map_some,
        String.ofList_toList]

end Strings

section Values

/-- Whether all numbers in a value are numerals. -/
inductive Value.Spelt : Value → Prop
  | null : Spelt .null
  | bool (value : Bool) : Spelt (.bool value)
  | number {digits : String} (numeral : readNumber digits.toList = some (digits, [])) :
      Spelt (.number digits)
  | string (text : Text) : Spelt (.string text)
  | array {items : List Value} (each : ∀ item ∈ items, Spelt item) : Spelt (.array items)
  | object {members : List (Text × Value)} (each : ∀ member ∈ members, Spelt member.2) :
      Spelt (.object members)

/-- Whether a text starts with what neither is blank nor closes anything. -/
def Opens (text : List Char) : Prop :=
  ∃ c rest, text = c :: rest ∧ c ∉ [' ', '\t', '\n', '\r', ']', '\x7d']

theorem Opens.append (opens : Opens text) (rest : List Char) : Opens (text ++ rest) := by
  obtain ⟨c, body, rfl, proper⟩ := opens
  exact ⟨c, body ++ rest, rfl, proper⟩

theorem skipBlanks_of_opens (opens : Opens text) : skipBlanks text = text := by
  obtain ⟨c, rest, rfl, proper⟩ := opens
  simp only [List.mem_cons, List.not_mem_nil, or_false, not_or] at proper
  refine List.dropWhile_cons_of_neg ?_
  simp [proper]

theorem opens_writeString (text : Text) : Opens (writeString text) := by
  cases text with
  | none => exact ⟨'"', _, rfl, by decide⟩
  | some text => exact ⟨'"', _, rfl, by decide⟩

theorem length_pos_of_opens (opens : Opens text) : 0 < text.length := by
  obtain ⟨c, rest, rfl, -⟩ := opens
  exact Nat.succ_pos _

/-- Whether a value is read as it has been written, as a part of another one. -/
def Rereads (value : Value) : Prop :=
  Opens (writeValue value) ∧ ∀ fuel rest, Stops rest → 2 * (writeValue value).length ≤ fuel →
    readValue fuel (writeValue value ++ rest) = some (value, rest)

theorem rereads_of_cons {value : Value} {c : Char} {body : List Char}
    (form : writeValue value = c :: body) (opens : Opens (c :: body))
    (reads : ∀ fuel rest, Stops rest → 2 * body.length < fuel →
      readValue (fuel + 1) (c :: (body ++ rest)) = some (value, rest)) : Rereads value := by
  rw [Rereads, form]
  refine ⟨opens, fun fuel rest stops enough => ?_⟩
  rw [List.length_cons] at enough
  obtain ⟨fuel, rfl⟩ := Nat.exists_eq_succ_of_ne_zero (n := fuel) (by omega)
  exact reads fuel rest stops (by omega)

theorem rereads_number {digits : String} (numeral : readNumber digits.toList = some (digits, [])) :
    Rereads (.number digits) := by
  have form : writeValue (.number digits) = digits.toList := by rw [writeValue]
  cases same : digits.toList with
  | nil =>
      rw [same] at numeral
      cases numeral
  | cons c text =>
      rw [same] at numeral form
      have head := head_of_readNumber numeral
      have opens : Opens (c :: text) := by
        refine ⟨c, text, rfl, fun listed => ?_⟩
        simp only [List.mem_cons, List.not_mem_nil, or_false] at listed
        rcases listed with rfl | rfl | rfl | rfl | rfl | rfl <;> simp at head
      refine rereads_of_cons form opens fun fuel rest stops _ => ?_
      rw [readValue, ← List.cons_append, skipBlanks_of_opens (opens.append rest), List.cons_append]
      -- Neither a sign nor a digit starts a value of any other kind.
      split
      case h_7 =>
        rw [← List.cons_append, readNumber_append numeral stops]
        rfl
      all_goals
        rename_i other
        cases other
        simp at head

theorem rereads_string (text : Text) : Rereads (.string text) := by
  obtain ⟨body, quoted, read⟩ := readString_writeString text
  have form : writeValue (.string text) = '"' :: body := by rw [writeValue, quoted]
  refine rereads_of_cons form ⟨'"', body, rfl, by decide⟩ fun fuel rest _ _ => ?_
  have quote : skipBlanks ('"' :: (body ++ rest)) = '"' :: (body ++ rest) := rfl
  rw [readValue, quote]
  simp only [read, Option.map_some]

theorem readItems_writeItems {items : List Value} (each : ∀ item ∈ items, Rereads item)
    (some : items ≠ []) : Opens (writeItems items) ∧
      ∀ fuel rest, 2 * (writeItems items).length ≤ fuel →
        readItems (fuel + 1) (writeItems items ++ ']' :: rest) = .some (items, rest) := by
  induction items with
  | nil => exact absurd rfl some
  | cons item items ih =>
      obtain ⟨⟨opens, reads⟩, each⟩ := List.forall_mem_cons.1 each
      have positive := length_pos_of_opens opens
      cases items with
      | nil =>
          refine ⟨opens, fun fuel rest enough => ?_⟩
          rw [writeItems] at enough ⊢
          rw [readItems, reads _ _ (stops_cons (by decide)) (by omega)]
          rfl
      | cons next items =>
          obtain ⟨-, others⟩ := ih each (List.cons_ne_nil _ _)
          have shape : writeItems (item :: next :: items) =
              writeValue item ++ ',' :: writeItems (next :: items) := by
            rw [writeItems]
            exact List.cons_ne_nil _ _
          rw [shape]
          refine ⟨opens.append _, fun fuel rest enough => ?_⟩
          rw [List.length_append, List.length_cons] at enough
          obtain ⟨fuel, rfl⟩ := Nat.exists_eq_succ_of_ne_zero (n := fuel) (by omega)
          have comma : skipBlanks (',' :: (writeItems (next :: items) ++ ']' :: rest)) =
              ',' :: (writeItems (next :: items) ++ ']' :: rest) := rfl
          rw [readItems, List.append_assoc, List.cons_append,
            reads _ _ (stops_cons (by decide)) (by omega)]
          simp only [Option.bind_eq_bind, Option.bind_some, comma, others fuel rest (by omega)]

theorem readMembers_writeMembers {members : List (Text × Value)}
    (each : ∀ member ∈ members, Rereads member.2) (some : members ≠ []) :
    Opens (writeMembers members) ∧ ∀ fuel rest, 2 * (writeMembers members).length ≤ fuel →
      readMembers (fuel + 1) (writeMembers members ++ '\x7d' :: rest) = .some (members, rest) := by
  induction members with
  | nil => exact absurd rfl some
  | cons member members ih =>
      obtain ⟨name, value⟩ := member
      obtain ⟨first, each⟩ := List.forall_mem_cons.1 each
      obtain ⟨-, reads⟩ : Rereads value := first
      obtain ⟨body, quoted, named⟩ := readString_writeString name
      have colon (rest : List Char) : skipBlanks (':' :: rest) = ':' :: rest := rfl
      have quote (rest : List Char) : skipBlanks ('"' :: rest) = '"' :: rest := rfl
      cases members with
      | nil =>
          refine ⟨(opens_writeString name).append _, fun fuel rest enough => ?_⟩
          rw [writeMembers] at enough ⊢
          rw [List.length_append, List.length_cons] at enough
          have here := reads fuel ('\x7d' :: rest) (stops_cons (by decide)) (by omega)
          rw [readMembers, quoted]
          simp only [List.append_assoc, List.cons_append, quote, named, colon, here,
            Option.bind_eq_bind, Option.bind_some]
          rfl
      | cons next members =>
          obtain ⟨-, others⟩ := ih each (List.cons_ne_nil _ _)
          have shape : writeMembers ((name, value) :: next :: members) =
              writeString name ++ ':' :: writeValue value ++
                ',' :: writeMembers (next :: members) := by
            rw [writeMembers]
            exact List.cons_ne_nil _ _
          rw [shape]
          refine ⟨((opens_writeString name).append _).append _, fun fuel rest enough => ?_⟩
          simp only [List.length_append, List.length_cons] at enough
          obtain ⟨fuel, rfl⟩ := Nat.exists_eq_succ_of_ne_zero (n := fuel) (by omega)
          have comma : skipBlanks (',' :: (writeMembers (next :: members) ++ '\x7d' :: rest)) =
              ',' :: (writeMembers (next :: members) ++ '\x7d' :: rest) := rfl
          have here := reads (fuel + 1) (',' :: (writeMembers (next :: members) ++ '\x7d' :: rest))
            (stops_cons (by decide)) (by omega)
          rw [readMembers, quoted]
          simp only [List.append_assoc, List.cons_append, quote, named, colon, here, comma,
            others fuel rest (by omega), Option.bind_eq_bind, Option.bind_some]

theorem rereads_array {items : List Value} (each : ∀ item ∈ items, Rereads item) :
    Rereads (.array items) := by
  have form : writeValue (.array items) = '[' :: (writeItems items ++ [']']) := by
    rw [writeValue]
    rfl
  refine rereads_of_cons form ⟨'[', _, rfl, by decide⟩ fun fuel rest _ enough => ?_
  rw [List.length_append, List.length_singleton] at enough
  obtain ⟨fuel, rfl⟩ := Nat.exists_eq_succ_of_ne_zero (n := fuel) (by omega)
  have bracket (rest : List Char) : skipBlanks ('[' :: rest) = '[' :: rest := rfl
  rw [readValue, bracket]
  by_cases empty : items = []
  · subst empty
    rw [writeItems]
    rfl
  · obtain ⟨opens, reads⟩ := readItems_writeItems each empty
    obtain ⟨c, body, shape, proper⟩ := opens.append (']' :: rest)
    have solid : skipBlanks (writeItems items ++ ']' :: rest) = c :: body := by
      rw [skipBlanks_of_opens (opens.append _), shape]
    simp only [List.append_assoc, List.singleton_append, solid]
    split
    · rename_i same
      cases same
      simp at proper
    · rw [← shape, reads fuel rest (by omega)]
      rfl

theorem rereads_object {members : List (Text × Value)}
    (each : ∀ member ∈ members, Rereads member.2) : Rereads (.object members) := by
  have form : writeValue (.object members) = '\x7b' :: (writeMembers members ++ ['\x7d']) := by
    rw [writeValue]
    rfl
  refine rereads_of_cons form ⟨'\x7b', _, rfl, by decide⟩ fun fuel rest _ enough => ?_
  rw [List.length_append, List.length_singleton] at enough
  obtain ⟨fuel, rfl⟩ := Nat.exists_eq_succ_of_ne_zero (n := fuel) (by omega)
  have brace (rest : List Char) : skipBlanks ('\x7b' :: rest) = '\x7b' :: rest := rfl
  rw [readValue, brace]
  by_cases empty : members = []
  · subst empty
    rw [writeMembers]
    rfl
  · obtain ⟨opens, reads⟩ := readMembers_writeMembers each empty
    obtain ⟨c, body, shape, proper⟩ := opens.append ('\x7d' :: rest)
    have solid : skipBlanks (writeMembers members ++ '\x7d' :: rest) = c :: body := by
      rw [skipBlanks_of_opens (opens.append _), shape]
    simp only [List.append_assoc, List.singleton_append, solid]
    split
    · rename_i same
      cases same
      simp at proper
    · rw [← shape, reads fuel rest (by omega)]
      rfl

/-- Every value whose numbers are numerals is read as it is written, whatever follows it. -/
theorem Value.Spelt.rereads {value : Value} (spelt : value.Spelt) : Rereads value := by
  induction spelt with
  | null => exact rereads_of_cons rfl ⟨'n', _, rfl, by decide⟩ fun _ _ _ _ => rfl
  | bool value =>
      cases value with
      | false => exact rereads_of_cons rfl ⟨'f', _, rfl, by decide⟩ fun _ _ _ _ => rfl
      | true => exact rereads_of_cons rfl ⟨'t', _, rfl, by decide⟩ fun _ _ _ _ => rfl
  | number numeral => exact rereads_number numeral
  | string text => exact rereads_string text
  | array _ each => exact rereads_array each
  | object _ each => exact rereads_object each

/-- Every value whose numbers are numerals is read as it is written. -/
theorem Value.Spelt.read_write {value : Value} (spelt : value.Spelt) :
    Value.read value.write = some value := by
  obtain ⟨-, reads⟩ := spelt.rereads
  have read := reads (2 * (writeValue value).length + 2) [] stops_nil (Nat.le_add_right _ _)
  rw [List.append_nil] at read
  rw [Value.read, Value.write, String.toList_ofList]
  simp only [read, Option.bind_eq_bind, Option.bind_some]
  rfl

end Values

end ClubOffice.Json
