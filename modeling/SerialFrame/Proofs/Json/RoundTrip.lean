import SerialFrame.Proofs.Json.Numbers
import SerialFrame.Proofs.Json.Strings

/-!
# Documents read back

`parse_written`: a plain document reads back from every layout. The reader skips the blanks in front
of each part, so it does not matter where they stand; a part is written with at least one character
for two levels of the reader, so these do not run out (`Reads`).
-/

namespace SerialFrame.Json

variable {l : Layout} {level fuel : Nat} {j : Json} {c : Char} {cs rest blanks : List Char}

/-! ### Blanks -/

theorem skipSpace_append (h : Blanks blanks) (cs : List Char) :
    skipSpace (blanks ++ cs) = skipSpace cs :=
  List.dropWhile_append_of_pos h

theorem skipSpace_cons (h : isSpace c = false) (cs : List Char) : skipSpace (c :: cs) = c :: cs :=
  List.dropWhile_cons_of_neg (by simp [h])

theorem skipSpace_skipSpace (cs : List Char) : skipSpace (skipSpace cs) = skipSpace cs := by
  induction cs with
  | nil => rfl
  | cons c cs ih =>
    cases h : isSpace c with
    | true =>
      have hskip : skipSpace (c :: cs) = skipSpace cs := List.dropWhile_cons_of_pos h
      rw [hskip, ih]
    | false => rw [skipSpace_cons h, skipSpace_cons h]

theorem readValue_skipSpace (fuel : Nat) (cs : List Char) :
    readValue fuel (skipSpace cs) = readValue fuel cs := by
  cases fuel with
  | zero => rw [readValue, readValue]
  | succ fuel => rw [readValue, readValue, skipSpace_skipSpace]

theorem readElements_skipSpace (fuel : Nat) (cs : List Char) :
    readElements fuel (skipSpace cs) = readElements fuel cs := by
  cases fuel with
  | zero => rw [readElements, readElements]
  | succ fuel => rw [readElements, readElements, readValue_skipSpace]

theorem readMembers_skipSpace (fuel : Nat) (cs : List Char) :
    readMembers fuel (skipSpace cs) = readMembers fuel cs := by
  cases fuel with
  | zero => rw [readMembers, readMembers]
  | succ fuel => rw [readMembers, readMembers, skipSpace_skipSpace]

theorem not_continuesNumber_of_isSpace (h : isSpace c) : continuesNumber c = false := by
  simp only [isSpace, Bool.or_eq_true, beq_iff_eq] at h
  rcases h with ((rfl | rfl) | rfl) | rfl <;> rfl

theorem Ends.blanks_append (h : Blanks blanks) (hrest : Ends rest) : Ends (blanks ++ rest) := by
  cases blanks with
  | nil => exact hrest
  | cons c blanks => exact .cons (not_continuesNumber_of_isSpace (h c List.mem_cons_self)) _

/-! ### Values -/

/-- The written value reads back, whatever blanks stand in front of it. -/
def Reads (l : Layout) (j : Json) : Prop :=
  ∀ level fuel blanks rest, Blanks blanks → 2 * (l.written level j).length ≤ fuel → Ends rest →
    readValue fuel (blanks ++ (l.written level j ++ rest)) = some (j, rest)

/-- A value that is neither an array nor an object reads back if its characters do. -/
theorem reads_scalar (hcs : ∀ level, l.written level j = c :: cs) (hspace : isSpace c = false)
    (harray : c ≠ '[') (hobject : c ≠ '\x7b')
    (hread : ∀ rest, Ends rest → readScalar (c :: cs ++ rest) = some (j, rest)) : Reads l j := by
  intro level fuel blanks rest hblanks hfuel hrest
  rw [hcs] at hfuel ⊢
  obtain ⟨fuel, rfl⟩ : ∃ n, fuel = n + 1 := ⟨fuel - 1, by simp at hfuel; omega⟩
  rw [readValue, skipSpace_append hblanks, List.cons_append, skipSpace_cons hspace]
  split
  · next heq => exact absurd (List.cons.inj heq).1 harray
  · next heq => exact absurd (List.cons.inj heq).1 hobject
  · exact hread rest hrest

theorem readElements_next {element : Json} (helement : Reads l element) (level : Nat)
    (hfuel : 2 * (l.written level element).length ≤ fuel) {tail : List Char} (htail : Ends tail)
    (hcomma : skipSpace tail = ',' :: rest) :
    readElements (fuel + 1) (l.line level ++ (l.written level element ++ tail)) =
      (readElements fuel rest).map fun (elements, rest) => (element :: elements, rest) := by
  rw [readElements, helement level fuel _ tail (l.line_blanks level) hfuel htail]
  simp only [Option.bind_eq_bind, Option.bind_some, hcomma]
  cases readElements fuel rest <;> rfl

theorem readElements_last {element : Json} (helement : Reads l element) (level : Nat)
    (hfuel : 2 * (l.written level element).length ≤ fuel) {tail : List Char} (htail : Ends tail)
    (hbracket : skipSpace tail = ']' :: rest) :
    readElements (fuel + 1) (l.line level ++ (l.written level element ++ tail)) =
      some ([element], rest) := by
  rw [readElements, helement level fuel _ tail (l.line_blanks level) hfuel htail]
  simp only [Option.bind_eq_bind, Option.bind_some, hbracket]
  rfl

theorem writtenElements_singleton (element : Json) :
    l.writtenElements level [element] = l.line level ++ l.written level element := rfl

theorem writtenElements_cons (element next : Json) (elements : List Json) :
    l.writtenElements level (element :: next :: elements) =
      l.line level ++ (l.written level element ++
        ',' :: l.writtenElements level (next :: elements)) :=
  List.append_assoc ..

theorem readElements_written {elements : List Json} (hne : elements ≠ [])
    (helements : ∀ element ∈ elements, Reads l element) (level fuel : Nat)
    (hfuel : 2 * (l.writtenElements level elements).length + 1 ≤ fuel) (hblanks : Blanks blanks)
    (rest : List Char) :
    readElements fuel (l.writtenElements level elements ++ (blanks ++ ']' :: rest)) =
      some (elements, rest) := by
  induction elements generalizing fuel with
  | nil => exact absurd rfl hne
  | cons element elements ih =>
    obtain ⟨fuel, rfl⟩ : ∃ n, fuel = n + 1 := ⟨fuel - 1, by omega⟩
    have helement := helements element List.mem_cons_self
    cases elements with
    | nil =>
      simp only [writtenElements_singleton, List.length_append] at hfuel
      have hclose : skipSpace (blanks ++ ']' :: rest) = ']' :: rest := by
        rw [skipSpace_append hblanks, skipSpace_cons rfl]
      rw [writtenElements_singleton, List.append_assoc]
      exact readElements_last helement level (by omega) (.blanks_append hblanks (.cons rfl _)) hclose
    | cons next elements =>
      rw [writtenElements_cons] at hfuel ⊢
      simp only [List.length_append, List.length_cons] at hfuel
      have hrest := ih (List.cons_ne_nil _ _) (fun e he => helements e (List.mem_cons_of_mem _ he))
        fuel (by omega)
      rw [List.append_assoc, List.append_assoc, List.cons_append,
        readElements_next helement level (by omega) (.cons rfl _) (skipSpace_cons rfl _), hrest]
      rfl

def memberStart (l : Layout) (level : Nat) (name : String) (value : List Char) : List Char :=
  l.line level ++ '"' :: ((Text.ofString name).flatMap StringItem.written ++
    '"' :: ':' :: (l.gap ++ value))

theorem readMembers_next {value : Json} (hvalue : Reads l value) (level : Nat) (name : String)
    (hfuel : 2 * (l.written level value).length ≤ fuel) {tail : List Char} (htail : Ends tail)
    (hcomma : skipSpace tail = ',' :: rest) :
    readMembers (fuel + 1) (memberStart l level name (l.written level value ++ tail)) =
      (readMembers fuel rest).map fun (members, rest) =>
        ((.ofString name, value) :: members, rest) := by
  have hcolon (cs : List Char) : skipSpace (':' :: cs) = ':' :: cs := skipSpace_cons rfl cs
  rw [readMembers, memberStart, skipSpace_append (l.line_blanks level), skipSpace_cons rfl]
  simp only [readString_written, Option.bind_eq_bind, Option.bind_some, hcolon,
    hvalue level fuel l.gap tail l.gap_blanks hfuel htail, hcomma]
  cases readMembers fuel rest <;> rfl

theorem readMembers_last {value : Json} (hvalue : Reads l value) (level : Nat) (name : String)
    (hfuel : 2 * (l.written level value).length ≤ fuel) {tail : List Char} (htail : Ends tail)
    (hbrace : skipSpace tail = '\x7d' :: rest) :
    readMembers (fuel + 1) (memberStart l level name (l.written level value ++ tail)) =
      some ([(.ofString name, value)], rest) := by
  have hcolon (cs : List Char) : skipSpace (':' :: cs) = ':' :: cs := skipSpace_cons rfl cs
  rw [readMembers, memberStart, skipSpace_append (l.line_blanks level), skipSpace_cons rfl]
  simp only [readString_written, Option.bind_eq_bind, Option.bind_some, hcolon,
    hvalue level fuel l.gap tail l.gap_blanks hfuel htail, hbrace]
  rfl

abbrev membersOf (fields : List (String × Json)) : List (Text × Json) :=
  fields.map fun field => (.ofString field.1, field.2)

theorem memberStart_append (name : String) (value tail : List Char) :
    memberStart l level name value ++ tail = memberStart l level name (value ++ tail) := by
  simp [memberStart]

theorem writtenMembers_singleton (name : String) (value : Json) :
    l.writtenMembers level (membersOf [(name, value)]) =
      memberStart l level name (l.written level value) := by
  simp [Layout.writtenMembers, Text.written, memberStart]

theorem writtenMembers_cons (name : String) (value : Json) (next : String × Json)
    (fields : List (String × Json)) :
    l.writtenMembers level (membersOf ((name, value) :: next :: fields)) =
      memberStart l level name (l.written level value ++
        ',' :: l.writtenMembers level (membersOf (next :: fields))) := by
  simp [Layout.writtenMembers, Text.written, memberStart]

theorem readMembers_written {fields : List (String × Json)} (hne : fields ≠ [])
    (hfields : ∀ field ∈ fields, Reads l field.2) (level fuel : Nat)
    (hfuel : 2 * (l.writtenMembers level (membersOf fields)).length + 1 ≤ fuel)
    (hblanks : Blanks blanks) (rest : List Char) :
    readMembers fuel (l.writtenMembers level (membersOf fields) ++ (blanks ++ '\x7d' :: rest)) =
      some (membersOf fields, rest) := by
  induction fields generalizing fuel with
  | nil => exact absurd rfl hne
  | cons field fields ih =>
    obtain ⟨fuel, rfl⟩ : ∃ n, fuel = n + 1 := ⟨fuel - 1, by omega⟩
    obtain ⟨name, value⟩ := field
    have hvalue : Reads l value := hfields (name, value) List.mem_cons_self
    cases fields with
    | nil =>
      rw [writtenMembers_singleton] at hfuel ⊢
      simp only [memberStart, List.length_append, List.length_cons] at hfuel
      have hclose : skipSpace (blanks ++ '\x7d' :: rest) = '\x7d' :: rest := by
        rw [skipSpace_append hblanks, skipSpace_cons rfl]
      rw [memberStart_append]
      exact readMembers_last hvalue level name (by omega) (.blanks_append hblanks (.cons rfl _))
        hclose
    | cons next fields =>
      rw [writtenMembers_cons] at hfuel ⊢
      simp only [memberStart, List.length_append, List.length_cons] at hfuel
      have hrest := ih (List.cons_ne_nil _ _) (fun f hf => hfields f (List.mem_cons_of_mem _ hf))
        fuel (by omega)
      rw [memberStart_append, List.append_assoc, List.cons_append,
        readMembers_next hvalue level name (by omega) (.cons rfl _) (skipSpace_cons rfl _), hrest]
      rfl

/-! ### Documents -/

theorem readValue_array (hblanks : Blanks blanks) (hne : ∀ rest, skipSpace cs ≠ ']' :: rest) :
    readValue (fuel + 1) (blanks ++ '[' :: cs) =
      (readElements fuel cs).map fun (elements, rest) => (.array elements, rest) := by
  have hopen : skipSpace ('[' :: cs) = '[' :: cs := skipSpace_cons rfl cs
  simp only [readValue, skipSpace_append hblanks, hopen, readElements_skipSpace]

theorem readValue_object (hblanks : Blanks blanks) (hne : ∀ rest, skipSpace cs ≠ '\x7d' :: rest) :
    readValue (fuel + 1) (blanks ++ '\x7b' :: cs) =
      (readMembers fuel cs).map fun (members, rest) => (.object members, rest) := by
  have hopen : skipSpace ('\x7b' :: cs) = '\x7b' :: cs := skipSpace_cons rfl cs
  simp only [readValue, skipSpace_append hblanks, hopen, readMembers_skipSpace]

/-- The first character of a number starts nothing else. -/
theorem starts_number (h : c = '-' ∨ c.isDigit) :
    c ∉ [' ', '\t', '\n', '\r', '[', ']', '\x7b', '"', 'n', 't', 'f'] := by
  intro hmem
  have hother : [' ', '\t', '\n', '\r', '[', ']', '\x7b', '"', 'n', 't', 'f'].all
      fun c => !(c == '-' || c.isDigit) := by decide
  have hc := List.all_eq_true.mp hother c hmem
  rcases h with rfl | h
  · cases hc
  · simp [h] at hc

theorem isSpace_eq_false_of_number (h : c = '-' ∨ c.isDigit) : isSpace c = false := by
  have hc := starts_number h
  simp only [List.mem_cons, not_or] at hc
  simp [isSpace, hc]

theorem written_array_nil : l.written level (.array []) = ['[', ']'] := rfl

theorem written_array_cons (element : Json) (elements : List Json) :
    l.written level (.array (element :: elements)) =
      '[' :: (l.writtenElements (level + 1) (element :: elements) ++ (l.line level ++ [']'])) :=
  rfl

theorem written_fields_nil : l.written level (.ofFields []) = ['\x7b', '\x7d'] := rfl

theorem written_fields_cons (field : String × Json) (fields : List (String × Json)) :
    l.written level (.ofFields (field :: fields)) =
      '\x7b' :: (l.writtenMembers (level + 1) (membersOf (field :: fields)) ++
        (l.line level ++ ['\x7d'])) :=
  rfl

/-- A written value starts with neither a blank nor a closing bracket. -/
theorem Plain.exists_written_eq_cons (h : Plain j) (l : Layout) (level : Nat) :
    ∃ c cs, l.written level j = c :: cs ∧ isSpace c = false ∧ c ≠ ']' := by
  cases h with
  | null => exact ⟨'n', _, rfl, rfl, by decide⟩
  | bool value =>
    cases value with
    | true => exact ⟨'t', _, rfl, rfl, by decide⟩
    | false => exact ⟨'f', _, rfl, rfl, by decide⟩
  | int n =>
    obtain ⟨c, cs, hcs, hc⟩ := exists_written_ofInt n
    have hother := starts_number hc
    simp only [List.mem_cons, not_or] at hother
    exact ⟨c, cs, hcs, isSpace_eq_false_of_number hc, hother.2.2.2.2.2.1⟩
  | text text => exact ⟨'"', _, rfl, rfl, by decide⟩
  | @array elements _ =>
    cases elements with
    | nil => exact ⟨'[', _, rfl, rfl, by decide⟩
    | cons element elements => exact ⟨'[', _, written_array_cons element elements, rfl, by decide⟩
  | @fields fields _ =>
    cases fields with
    | nil => exact ⟨'\x7b', _, rfl, rfl, by decide⟩
    | cons field fields => exact ⟨'\x7b', _, written_fields_cons field fields, rfl, by decide⟩

theorem reads_ofInt (n : Int) : Reads l (.ofInt n) := by
  obtain ⟨c, cs, hcs, hc⟩ := exists_written_ofInt n
  have hother := starts_number hc
  simp only [List.mem_cons, not_or] at hother
  obtain ⟨-, -, -, -, hbracket, -, hbrace, hquote, hn, ht, hf, -⟩ := hother
  refine reads_scalar (fun _ => hcs)
    (isSpace_eq_false_of_number hc) hbracket hbrace fun rest hrest => ?_
  have hread := readNumber_written n hrest
  rw [hcs] at hread
  rw [List.cons_append] at hread ⊢
  -- The first character rules out the keywords and the string.
  unfold readScalar
  split
  · next heq => exact absurd (List.cons.inj heq).1 hn
  · next heq => exact absurd (List.cons.inj heq).1 ht
  · next heq => exact absurd (List.cons.inj heq).1 hf
  · next heq => exact absurd (List.cons.inj heq).1 hquote
  · rw [hread]
    rfl

theorem reads_ofString (text : String) : Reads l (.ofString text) := by
  have hcs (level : Nat) : l.written level (.ofString text) =
      '"' :: ((Text.ofString text).flatMap StringItem.written ++ ['"']) := rfl
  refine reads_scalar hcs rfl (by decide) (by decide) fun rest _ => ?_
  rw [List.cons_append, List.append_assoc, List.singleton_append, readScalar, readString_written]
  rfl

theorem skipSpace_writtenElements {element : Json} (h : Plain element) (l : Layout) (level : Nat)
    (elements : List Json) (cs rest : List Char) :
    skipSpace (l.writtenElements level (element :: elements) ++ cs) ≠ ']' :: rest := by
  obtain ⟨c, written, hwritten, hspace, hc⟩ := h.exists_written_eq_cons l level
  obtain ⟨tail, htail⟩ : ∃ tail,
      l.writtenElements level (element :: elements) = l.line level ++ c :: tail := by
    cases elements with
    | nil => exact ⟨written, by rw [writtenElements_singleton, hwritten]⟩
    | cons next elements => exact ⟨_, by rw [writtenElements_cons, hwritten]; rfl⟩
  rw [htail, List.append_assoc, List.cons_append, skipSpace_append (l.line_blanks level),
    skipSpace_cons hspace]
  exact fun heq => hc (List.cons.inj heq).1

theorem skipSpace_writtenMembers (l : Layout) (level : Nat) (field : String × Json)
    (fields : List (String × Json)) (cs rest : List Char) :
    skipSpace (l.writtenMembers level (membersOf (field :: fields)) ++ cs) ≠ '\x7d' :: rest := by
  obtain ⟨value, hvalue⟩ : ∃ value,
      l.writtenMembers level (membersOf (field :: fields)) = memberStart l level field.1 value := by
    cases fields with
    | nil => exact ⟨_, writtenMembers_singleton field.1 field.2⟩
    | cons next fields => exact ⟨_, writtenMembers_cons field.1 field.2 next fields⟩
  rw [hvalue, memberStart_append, memberStart, skipSpace_append (l.line_blanks level),
    skipSpace_cons rfl]
  exact fun heq => absurd (List.cons.inj heq).1 (by decide)

theorem reads_array {elements : List Json} (hplain : ∀ element ∈ elements, Plain element)
    (helements : ∀ element ∈ elements, Reads l element) : Reads l (.array elements) := by
  intro level fuel blanks rest hblanks hfuel _
  cases elements with
  | nil =>
    rw [written_array_nil] at hfuel ⊢
    obtain ⟨fuel, rfl⟩ : ∃ n, fuel = n + 1 := ⟨fuel - 1, by simp at hfuel; omega⟩
    rw [readValue, skipSpace_append hblanks]
    rfl
  | cons element elements =>
    rw [written_array_cons] at hfuel ⊢
    simp only [List.length_cons, List.length_append] at hfuel
    obtain ⟨fuel, rfl⟩ : ∃ n, fuel = n + 1 := ⟨fuel - 1, by omega⟩
    have hread := readElements_written (List.cons_ne_nil element elements) helements (level + 1) fuel
      (by omega) (l.line_blanks level) rest
    have hne := skipSpace_writtenElements (hplain element List.mem_cons_self) l (level + 1) elements
      (l.line level ++ ']' :: rest)
    rw [List.cons_append, List.append_assoc, List.append_assoc, List.singleton_append,
      readValue_array hblanks hne, hread]
    rfl

theorem reads_fields {fields : List (String × Json)} (hfields : ∀ field ∈ fields, Reads l field.2) :
    Reads l (.ofFields fields) := by
  intro level fuel blanks rest hblanks hfuel _
  cases fields with
  | nil =>
    rw [written_fields_nil] at hfuel ⊢
    obtain ⟨fuel, rfl⟩ : ∃ n, fuel = n + 1 := ⟨fuel - 1, by simp at hfuel; omega⟩
    rw [readValue, skipSpace_append hblanks]
    rfl
  | cons field fields =>
    rw [written_fields_cons] at hfuel ⊢
    simp only [List.length_cons, List.length_append] at hfuel
    obtain ⟨fuel, rfl⟩ : ∃ n, fuel = n + 1 := ⟨fuel - 1, by omega⟩
    have hread := readMembers_written (List.cons_ne_nil field fields) hfields (level + 1) fuel
      (by omega) (l.line_blanks level) rest
    have hne := skipSpace_writtenMembers l (level + 1) field fields (l.line level ++ '\x7d' :: rest)
    rw [List.cons_append, List.append_assoc, List.append_assoc, List.singleton_append,
      readValue_object hblanks hne, hread]
    rfl

theorem Plain.reads (h : Plain j) : Reads l j := by
  induction h with
  | null =>
    exact reads_scalar (fun _ => rfl) rfl (by decide) (by decide)
      fun rest _ => rfl
  | bool value =>
    cases value with
    | true =>
      exact reads_scalar (fun _ => rfl) rfl (by decide) (by decide)
        fun rest _ => rfl
    | false =>
      exact reads_scalar (fun _ => rfl) rfl (by decide) (by decide)
        fun rest _ => rfl
  | int n => exact reads_ofInt n
  | text text => exact reads_ofString text
  | array plain ih => exact reads_array plain ih
  | fields _ ih => exact reads_fields ih

/-- A plain document reads back, whatever blanks it is written with. -/
theorem parse_written (h : Plain j) (l : Layout) (level : Nat) :
    parse (String.ofList (l.written level j)) = some j := by
  have hread := h.reads (l := l) level (2 * (l.written level j).length + 2) [] []
    (fun _ h => absurd h List.not_mem_nil) (by omega) .nil
  rw [List.nil_append, List.append_nil] at hread
  simp only [parse, String.toList_ofList, hread, Option.bind_eq_bind, Option.bind_some]
  rfl

end SerialFrame.Json
