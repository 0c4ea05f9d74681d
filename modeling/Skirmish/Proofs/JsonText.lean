import Skirmish.Proofs.JsonScanning

/-!
JSON texts of values. The reader takes the one-line form of a value and gives the value back, however
deep it is. How numbers are printed is left open: a value comes back if each of its numbers is
printed as a numeral that is read as this number.
-/

namespace Skirmish

namespace Json

open Text (Stops)

mutual

def numbers {ν : Type} : Json ν → List ν
  | null | bool _ | string _ => []
  | number n => [n]
  | array items => itemNumbers items
  | object members => memberNumbers members

def itemNumbers {ν : Type} : List (Json ν) → List ν
  | [] => []
  | j :: rest => j.numbers ++ itemNumbers rest

def memberNumbers {ν : Type} : List (String × Json ν) → List ν
  | [] => []
  | (_, j) :: rest => j.numbers ++ memberNumbers rest

end

section Parts

variable {ν : Type}

theorem mem_numbers_array {items : List (Json ν)} {n : ν} :
    n ∈ (array items).numbers ↔ ∃ j ∈ items, n ∈ j.numbers := by
  show n ∈ itemNumbers items ↔ _
  induction items with
  | nil => simp [itemNumbers]
  | cons j items ih => simp [itemNumbers, ih]

theorem mem_numbers_object {members : List (String × Json ν)} {n : ν} :
    n ∈ (object members).numbers ↔ ∃ m ∈ members, n ∈ m.2.numbers := by
  show n ∈ memberNumbers members ↔ _
  induction members with
  | nil => simp [memberNumbers]
  | cons m members ih => simp [memberNumbers, ih]

theorem byParts {motive : Json ν → Prop} (null : motive .null) (bool : ∀ b, motive (.bool b))
    (number : ∀ n, motive (.number n)) (string : ∀ s, motive (.string s))
    (array : ∀ items, (∀ j ∈ items, motive j) → motive (.array items))
    (object : ∀ members, (∀ m ∈ members, motive m.2) → motive (.object members)) (j : Json ν) :
    motive j :=
  @Json.rec ν motive (fun items => ∀ j ∈ items, motive j)
    (fun members => ∀ m ∈ members, motive m.2) (fun m => motive m.2) null bool number string array
    object (List.forall_mem_nil _) (fun _ _ head tail => List.forall_mem_cons.2 ⟨head, tail⟩)
    (List.forall_mem_nil _) (fun _ _ head tail => List.forall_mem_cons.2 ⟨head, tail⟩)
    (fun _ _ value => value) j

end Parts

namespace Parse

def startsValue (c : Char) : Bool :=
  c = '"' || c = '[' || c = '\x7b' || c = 'n' || c = 't' || c = 'f' || c = '-' || c.isDigit

theorem startsValue_of_numeral {c : Char} (h : c = '-' ∨ c.isDigit) : startsValue c := by
  simp only [startsValue, Bool.or_eq_true, decide_eq_true_eq]
  exact h.elim (fun minus => .inl (.inr minus)) .inr

theorem skipBlanks_of_startsValue {c : Char} (h : startsValue c) (text : List Char) :
    skipBlanks (c :: text) = c :: text := by
  apply List.dropWhile_cons_of_neg
  intro blank
  simp only [Bool.or_eq_true, decide_eq_true_eq] at blank
  obtain ((rfl | rfl) | rfl) | rfl := blank <;> cases h

theorem value_numeral {text rest : List Char} {n : Numeral} (h : numeral text = some (n, []))
    (stops : Stops continuesNumeral rest) (fuel : Nat) :
    value (fuel + 1) (text ++ rest) = some (.number n, rest) := by
  obtain ⟨c, cs, rfl, first⟩ := numeral_head h
  have whole := numeral_append stops h
  have starts := startsValue_of_numeral first
  have first {d : Char} {tail : List Char} (e : c :: (cs ++ rest) = d :: tail) :
      d = '-' ∨ d.isDigit := by
    cases e
    exact first
  rw [List.cons_append] at whole ⊢
  simp only [value, skipBlanks_of_startsValue starts]
  split
  case h_7 =>
    rw [whole]
    rfl
  all_goals
    rename_i other
    exact absurd (first other) (by decide)

theorem value_bracket {c : Char} (starts : startsValue c) (text : List Char) (fuel : Nat) :
    value (fuel + 1) ('[' :: c :: text) =
      (items fuel (c :: text)).map fun (l, rest) => (.array l, rest) := by
  have opening : skipBlanks ('[' :: c :: text) = '[' :: c :: text := rfl
  have ne : c ≠ ']' := by
    rintro rfl
    cases starts
  simp [value, opening, skipBlanks_of_startsValue starts, ne]

theorem value_brace (text : List Char) (fuel : Nat) :
    value (fuel + 1) ('\x7b' :: '"' :: text) =
      (members fuel ('"' :: text)).map fun (l, rest) => (.object l, rest) :=
  rfl

end Parse

section Texts

variable (num : Numeral → String)

def text (j : Json Numeral) : List Char := (j.compact num).toList

def quoted (s : String) : List Char := '"' :: (s.toList.flatMap escapeChar ++ ['"'])

def itemsText (items : List (Json Numeral)) : List Char :=
  (",".intercalate (compactItems num items)).toList

def membersText (members : List (String × Json Numeral)) : List Char :=
  (",".intercalate (compactMembers num members)).toList

theorem text_null : text num .null = ['n', 'u', 'l', 'l'] := by simp [text, compact]

theorem text_true : text num (.bool true) = ['t', 'r', 'u', 'e'] := by simp [text, compact]

theorem text_false : text num (.bool false) = ['f', 'a', 'l', 's', 'e'] := by simp [text, compact]

theorem text_string (s : String) : text num (.string s) = quoted s := by
  simp [text, compact, quote, quoted]

theorem text_array (items : List (Json Numeral)) :
    text num (.array items) = '[' :: (itemsText num items ++ [']']) := by
  simp [text, compact, bracket, itemsText]

theorem text_object (members : List (String × Json Numeral)) :
    text num (.object members) = '\x7b' :: (membersText num members ++ ['\x7d']) := by
  simp [text, compact, bracket, membersText]

theorem itemsText_singleton (j : Json Numeral) : itemsText num [j] = text num j := by
  simp [itemsText, compactItems, text]

theorem itemsText_cons (j k : Json Numeral) (items : List (Json Numeral)) :
    itemsText num (j :: k :: items) = text num j ++ ',' :: itemsText num (k :: items) := by
  simp [itemsText, compactItems, text, String.intercalate_cons_cons]

theorem membersText_singleton (key : String) (j : Json Numeral) :
    membersText num [(key, j)] = quoted key ++ ':' :: text num j := by
  simp [membersText, compactMembers, text, quote, quoted]

theorem membersText_cons (key : String) (j : Json Numeral) (m : String × Json Numeral)
    (members : List (String × Json Numeral)) :
    membersText num ((key, j) :: m :: members) =
      quoted key ++ ':' :: (text num j ++ ',' :: membersText num (m :: members)) := by
  simp [membersText, compactMembers, text, quote, quoted, String.intercalate_cons_cons]

end Texts

def Readable (num : Numeral → String) (n : Numeral) : Prop :=
  Parse.numeral (num n).toList = some (n, [])

variable {num : Numeral → String}

open Parse (continuesNumeral startsValue)

theorem text_head {j : Json Numeral} (readable : ∀ n ∈ j.numbers, Readable num n) :
    ∃ c cs, text num j = c :: cs ∧ startsValue c := by
  cases j with
  | null => exact ⟨_, _, text_null num, rfl⟩
  | bool b =>
    cases b with
    | false => exact ⟨_, _, text_false num, rfl⟩
    | true => exact ⟨_, _, text_true num, rfl⟩
  | number n =>
    obtain ⟨c, cs, head, first⟩ := Parse.numeral_head (readable n (List.mem_singleton_self n))
    exact ⟨c, cs, head, Parse.startsValue_of_numeral first⟩
  | string s => exact ⟨_, _, text_string num s, rfl⟩
  | array items => exact ⟨_, _, text_array num items, rfl⟩
  | object members => exact ⟨_, _, text_object num members, rfl⟩

theorem itemsText_head {items : List (Json Numeral)} (nonempty : items ≠ [])
    (readable : ∀ j ∈ items, ∀ n ∈ j.numbers, Readable num n) :
    ∃ c cs, itemsText num items = c :: cs ∧ startsValue c := by
  cases items with
  | nil => exact absurd rfl nonempty
  | cons j items =>
    obtain ⟨c, cs, head, starts⟩ := text_head (readable j List.mem_cons_self)
    cases items with
    | nil => exact ⟨c, cs, by rw [itemsText_singleton, head], starts⟩
    | cons k items =>
      refine ⟨c, cs ++ ',' :: itemsText num (k :: items), ?_, starts⟩
      rw [itemsText_cons, head, List.cons_append]

theorem membersText_head {members : List (String × Json Numeral)} (nonempty : members ≠ []) :
    ∃ cs, membersText num members = '"' :: cs := by
  cases members with
  | nil => exact absurd rfl nonempty
  | cons m members =>
    cases members with
    | nil => exact ⟨_, membersText_singleton num m.1 m.2⟩
    | cons next members => exact ⟨_, membersText_cons num m.1 m.2 next members⟩

/-- The text of a value is read as this value, if what follows does not continue a numeral. Each
character takes at most two steps. -/
def ReadsBack (num : Numeral → String) (j : Json Numeral) : Prop :=
  ∀ (rest : List Char) (fuel : Nat), Stops continuesNumeral rest →
    2 * (text num j).length < fuel → Parse.value fuel (text num j ++ rest) = some (j, rest)

theorem ReadsBack.of_succ {j : Json Numeral}
    (h : ∀ (rest : List Char) (fuel : Nat), Stops continuesNumeral rest →
      2 * (text num j).length ≤ fuel →
      Parse.value (fuel + 1) (text num j ++ rest) = some (j, rest)) : ReadsBack num j := by
  intro rest fuel stops enough
  cases fuel with
  | zero => exact absurd enough (Nat.not_lt_zero _)
  | succ fuel => exact h rest fuel stops (Nat.le_of_lt_succ enough)

theorem ReadsBack.before {j : Json Numeral} (h : ReadsBack num j) {c : Char}
    (hc : continuesNumeral c = false) {rest : List Char} {fuel : Nat}
    (enough : 2 * (text num j).length < fuel) :
    Parse.value fuel (text num j ++ c :: rest) = some (j, c :: rest) :=
  h (c :: rest) fuel (Text.stops_cons hc rest) enough

theorem items_itemsText {items : List (Json Numeral)} (nonempty : items ≠ [])
    (back : ∀ j ∈ items, ReadsBack num j) (rest : List Char) {fuel : Nat}
    (enough : 2 * (itemsText num items).length + 1 < fuel) :
    Parse.items fuel (itemsText num items ++ ']' :: rest) = some (items, rest) := by
  induction items generalizing fuel with
  | nil => exact absurd rfl nonempty
  | cons j items ih =>
    obtain ⟨first, others⟩ := List.forall_mem_cons.1 back
    cases fuel with
    | zero => omega
    | succ fuel =>
      cases items with
      | nil =>
        rw [itemsText_singleton] at enough ⊢
        rw [Parse.items, first.before rfl (by omega)]
        rfl
      | cons k items =>
        rw [itemsText_cons, List.length_append, List.length_cons] at enough
        have tail := @ih (List.cons_ne_nil k items) others fuel (by omega)
        rw [itemsText_cons, List.append_assoc, List.cons_append, Parse.items,
          first.before rfl (by omega)]
        show (Parse.items fuel _).bind _ = _
        rw [tail]
        rfl

theorem members_quoted (key : String) (rest : List Char) (fuel : Nat) :
    Parse.members (fuel + 1) (quoted key ++ ':' :: rest) =
      (Parse.value fuel rest).bind fun (j, rest) =>
        match Parse.skipBlanks rest with
        | ',' :: rest => (Parse.members fuel rest).bind fun (l, rest) => some ((key, j) :: l, rest)
        | '\x7d' :: rest => some ([(key, j)], rest)
        | _ => none := by
  have opening (text : List Char) : Parse.skipBlanks ('"' :: text) = '"' :: text := rfl
  have colon (text : List Char) : Parse.skipBlanks (':' :: text) = ':' :: text := rfl
  simp only [Parse.members, quoted, List.cons_append, List.append_assoc, opening, Text.dropStart?,
    if_true, Option.bind_eq_bind, Option.bind_some, List.nil_append, Parse.stringBody_quoted, colon]
  rfl

theorem members_membersText {members : List (String × Json Numeral)} (nonempty : members ≠ [])
    (back : ∀ m ∈ members, ReadsBack num m.2) (rest : List Char) {fuel : Nat}
    (enough : 2 * (membersText num members).length + 1 < fuel) :
    Parse.members fuel (membersText num members ++ '\x7d' :: rest) = some (members, rest) := by
  induction members generalizing fuel with
  | nil => exact absurd rfl nonempty
  | cons m members ih =>
    obtain ⟨key, j⟩ := m
    obtain ⟨first, others⟩ := List.forall_mem_cons.1 back
    replace first : ReadsBack num j := first
    cases fuel with
    | zero => omega
    | succ fuel =>
      cases members with
      | nil =>
        rw [membersText_singleton, List.length_append, List.length_cons] at enough
        rw [membersText_singleton, List.append_assoc, List.cons_append, members_quoted,
          first.before rfl (by omega)]
        rfl
      | cons m members =>
        simp only [membersText_cons, List.length_append, List.length_cons] at enough
        have tail := @ih (List.cons_ne_nil m members) others fuel (by omega)
        rw [membersText_cons, List.append_assoc, List.cons_append, List.append_assoc,
          List.cons_append, members_quoted, first.before rfl (by omega)]
        show (Parse.members fuel _).bind _ = _
        rw [tail]
        rfl

theorem ReadsBack.array {items : List (Json Numeral)}
    (readable : ∀ j ∈ items, ∀ n ∈ j.numbers, Readable num n)
    (back : ∀ j ∈ items, ReadsBack num j) : ReadsBack num (.array items) := by
  apply ReadsBack.of_succ
  intro rest fuel _ enough
  rw [text_array] at enough ⊢
  rw [List.length_cons, List.length_append, List.length_singleton] at enough
  rw [List.cons_append, List.append_assoc]
  cases items with
  | nil => rfl
  | cons j items =>
    have read := items_itemsText (List.cons_ne_nil j items) back rest
      (show 2 * (itemsText num (j :: items)).length + 1 < fuel by omega)
    obtain ⟨c, cs, head, starts⟩ := itemsText_head (List.cons_ne_nil j items) readable
    rw [head, List.cons_append] at read
    rw [head, List.cons_append, Parse.value_bracket starts, List.singleton_append, read]
    rfl

theorem ReadsBack.object {members : List (String × Json Numeral)}
    (back : ∀ m ∈ members, ReadsBack num m.2) : ReadsBack num (.object members) := by
  apply ReadsBack.of_succ
  intro rest fuel _ enough
  rw [text_object] at enough ⊢
  rw [List.length_cons, List.length_append, List.length_singleton] at enough
  rw [List.cons_append, List.append_assoc]
  cases members with
  | nil => rfl
  | cons m members =>
    have read := members_membersText (List.cons_ne_nil m members) back rest
      (show 2 * (membersText num (m :: members)).length + 1 < fuel by omega)
    obtain ⟨cs, head⟩ := @membersText_head num _ (List.cons_ne_nil m members)
    rw [head, List.cons_append] at read
    rw [head, List.cons_append, Parse.value_brace, List.singleton_append, read]
    rfl

theorem readsBack {j : Json Numeral} (readable : ∀ n ∈ j.numbers, Readable num n) :
    ReadsBack num j := by
  induction j using byParts with
  | null =>
    apply ReadsBack.of_succ
    intro rest fuel _ _
    rw [text_null]
    rfl
  | bool b =>
    apply ReadsBack.of_succ
    intro rest fuel _ _
    cases b with
    | false => rw [text_false]; rfl
    | true => rw [text_true]; rfl
  | number n =>
    apply ReadsBack.of_succ
    intro rest fuel stops _
    exact Parse.value_numeral (readable n (List.mem_singleton_self n)) stops fuel
  | string s =>
    apply ReadsBack.of_succ
    intro rest fuel _ _
    rw [text_string, quoted, List.cons_append, List.append_assoc, List.singleton_append]
    show (Parse.stringBody _).map _ = _
    rw [Parse.stringBody_quoted]
    rfl
  | array items ih =>
    have parts (j : Json Numeral) (mem : j ∈ items) (n : Numeral) (hn : n ∈ j.numbers) :
        Readable num n := readable n (mem_numbers_array.2 ⟨j, mem, hn⟩)
    exact ReadsBack.array parts fun j mem => ih j mem (parts j mem)
  | object members ih =>
    apply ReadsBack.object
    intro m mem
    exact ih m mem fun n hn => readable n (mem_numbers_object.2 ⟨m, mem, hn⟩)

theorem parse?_compact {j : Json Numeral} (readable : ∀ n ∈ j.numbers, Readable num n) :
    parse? (j.compact num) = some j := by
  have read := readsBack readable [] (2 * (text num j).length + 2) nofun (by omega)
  rw [List.append_nil, text] at read
  simp only [parse?, read]
  rfl

def Numeral.text (decimal : Float → String) : Numeral → String
  | .integer n => toString n
  | .decimal x => decimal x

theorem readable_integer (decimal : Float → String) (n : Int) :
    Readable (Numeral.text decimal) (.integer n) := by
  have text : (toString n).toList = Decimal.ofInt n := Decimal.toList_repr n
  rw [Readable, Numeral.text, text, Parse.numeral_ofInt]

def readText? {α : Type} (read : Json Numeral → Option α) (text : String) : Option α :=
  (parse? text).bind read

theorem readText?_compact {α : Type} {read : Json Numeral → Option α} {j : Json Numeral} {a : α}
    (given : read j = some a) {decimal : Float → String}
    (doubles : ∀ x, .decimal x ∈ j.numbers → Readable (Numeral.text decimal) (.decimal x)) :
    readText? read (j.compact (Numeral.text decimal)) = some a := by
  have readable : ∀ n ∈ j.numbers, Readable (Numeral.text decimal) n := by
    intro n mem
    cases n with
    | integer n => exact readable_integer decimal n
    | decimal x => exact doubles x mem
  rw [readText?, parse?_compact readable]
  exact given

end Json

end Skirmish
