import Whereabouts.Json.Printer
import Whereabouts.Json.Reader
import Whereabouts.Text.Blank

/-!
# Reading back written JSON

The reader undoes the indented layout: whatever follows a written value is left
over, and the value itself comes back.  A name comes back with the note whether
escapes were used to write it.
-/

namespace Whereabouts

/-!
## Digits

A run of digits is read to its end, which is where the first other character
stands.
-/

namespace Text

def NoDigit (s : List Char) : Prop :=
  s.head?.any Char.isDigit = false

theorem isDigit_digitChar {n : Nat} (h : n < 10) : (digitChar n).isDigit = true := by
  revert h
  revert n
  decide

theorem digitChar_ne_zero {n : Nat} (hn : n ≠ 0) (h : n < 10) : digitChar n ≠ '0' := by
  revert hn
  revert h
  revert n
  decide

theorem isDigit_of_mem_decimal {n : Nat} {c : Char} (h : c ∈ decimal n) :
    c.isDigit = true := by
  induction n using Nat.strongRecOn generalizing c with
  | ind n ih =>
      unfold decimal at h
      split at h
      · rename_i hlt
        rw [List.mem_singleton.mp h]
        exact isDigit_digitChar hlt
      · rcases List.mem_append.mp h with h | h
        · exact ih (n / 10) (by omega) h
        · rw [List.mem_singleton.mp h]
          exact isDigit_digitChar (Nat.mod_lt n (by omega))

theorem head_decimal {n : Nat} (hn : n ≠ 0) : (decimal n).head? ≠ some '0' := by
  induction n using Nat.strongRecOn with
  | ind n ih =>
      unfold decimal
      split
      · rename_i hlt
        simpa using digitChar_ne_zero hn hlt
      · have hne := decimal_ne_nil (n / 10)
        have hhead := ih (n / 10) (by omega) (by omega)
        cases hd : decimal (n / 10) with
        | nil => exact absurd hd hne
        | cons c rest =>
            rw [hd] at hhead
            exact hhead

theorem NoDigit.head {rest : List Char} (h : NoDigit rest) :
    forall c, rest.head? = some c -> c.isDigit = false := by
  cases rest with
  | nil => exact fun c hc => nomatch hc
  | cons d rest =>
      rintro c ⟨⟩
      exact h

theorem takeWhile_digits {digits rest : List Char}
    (hdigits : forall c, c ∈ digits -> c.isDigit = true) (hrest : NoDigit rest) :
    (digits ++ rest).takeWhile Char.isDigit = digits :=
  takeWhile_run hdigits hrest.head

theorem dropWhile_digits {digits rest : List Char}
    (hdigits : forall c, c ∈ digits -> c.isDigit = true) (hrest : NoDigit rest) :
    (digits ++ rest).dropWhile Char.isDigit = rest :=
  dropWhile_run hdigits hrest.head

end Text

namespace Json

/-!
## Numbers
-/

/-- What may follow a whole number: nothing that would continue it. -/
def EndsNumber : List Char -> Prop
  | [] => True
  | c :: _ => c.isDigit = false ∧ c ≠ '.' ∧ c ≠ 'e' ∧ c ≠ 'E'

theorem EndsNumber.noDigit {rest : List Char} (h : EndsNumber rest) : Text.NoDigit rest := by
  cases rest with
  | nil => rfl
  | cons c rest => exact h.1

theorem spanDigits_decimal (n : Nat) {rest : List Char} (h : Text.NoDigit rest) :
    spanDigits (Text.decimal n ++ rest) = (Text.decimal n, rest) := by
  have hdigits : forall c, c ∈ Text.decimal n -> c.isDigit = true :=
    fun _ hc => Text.isDigit_of_mem_decimal hc
  unfold spanDigits
  rw [Text.takeWhile_digits hdigits h, Text.dropWhile_digits hdigits h]

theorem readWhole_decimal (n : Nat) {rest : List Char} (h : Text.NoDigit rest) :
    readWhole (Text.decimal n ++ rest) = some (Text.decimal n, rest) := by
  have hne := Text.decimal_ne_nil n
  unfold readWhole
  rw [spanDigits_decimal n h]
  by_cases hn : n = 0
  · have hzero : Text.decimal 0 = ['0'] := by
      unfold Text.decimal
      rfl
    rw [hn, hzero]
    rfl
  · have hhead := Text.head_decimal hn
    cases hd : Text.decimal n with
    | nil => exact absurd hd hne
    | cons c digits =>
        rw [hd] at hhead
        split
        · rename_i heq
          cases heq
        · rename_i heq
          cases heq
          exact absurd rfl hhead
        · rename_i heq
          cases heq
          exact absurd rfl hhead
        · rename_i heq
          cases heq
          rfl

theorem readFraction_of_ends {rest : List Char} (h : EndsNumber rest) :
    readFraction rest = some ([], rest) := by
  cases rest with
  | nil => rfl
  | cons c rest =>
      unfold readFraction
      split
      · rename_i heq
        cases heq
        exact absurd rfl h.2.1
      · rfl

theorem readExponent_of_ends {rest : List Char} (h : EndsNumber rest) :
    readExponent rest = some ([], rest) := by
  cases rest with
  | nil => rfl
  | cons c rest => simp [readExponent, h.2.2.1, h.2.2.2]

theorem readNumber_decimal (n : Nat) {rest : List Char} (h : EndsNumber rest) :
    readNumber (Text.decimal n ++ rest) = some (.int n, rest) := by
  have hnotMinus : forall more, Text.decimal n ++ rest ≠ '-' :: more := by
    intro more heq
    cases hd : Text.decimal n with
    | nil => exact Text.decimal_ne_nil n hd
    | cons c digits =>
        have hc : c.isDigit = true := Text.isDigit_of_mem_decimal (n := n) (by simp [hd])
        rw [hd] at heq
        cases heq
        cases hc
  unfold readNumber
  split
  rename_i negative body heq
  split at heq
  · rename_i more hminus
    exact absurd hminus (hnotMinus more)
  · cases heq
    simp [readWhole_decimal n h.noDigit, readFraction_of_ends h, readExponent_of_ends h,
      Text.decimal?_decimal]

theorem readNumber_negative (n : Nat) {rest : List Char} (h : EndsNumber rest) :
    readNumber ('-' :: (Text.decimal (n + 1) ++ rest)) = some (.int (Int.negSucc n), rest) := by
  unfold readNumber
  simp [readWhole_decimal (n + 1) h.noDigit, readFraction_of_ends h, readExponent_of_ends h,
    Text.decimal?_decimal, Int.negSucc_eq]

theorem readNumber_signedDecimal (n : Int) {rest : List Char} (h : EndsNumber rest) :
    readNumber (Text.signedDecimal n ++ rest) = some (.int n, rest) := by
  cases n with
  | ofNat n => exact readNumber_decimal n h
  | negSucc n => exact readNumber_negative n h

/-!
## Strings

Every character of a text costs one step, however it is written.
-/

theorem readEscape_control {c : Char} (hc : c.toNat < 32) (rest : List Char) :
    readEscape ('0' :: '0' :: Text.hexChar (c.toNat / 16) :: Text.hexChar (c.toNat % 16)
      :: rest) = some (.char c, rest) := by
  have hhigh := Text.hexValue?_hexChar (n := c.toNat / 16) (by omega)
  have hlow := Text.hexValue?_hexChar (n := c.toNat % 16) (by omega)
  have hzero : Text.hexValue? '0' = some 0 := rfl
  have hunit : readUnit ('0' :: '0' :: Text.hexChar (c.toNat / 16)
      :: Text.hexChar (c.toNat % 16) :: rest) = some (c.toNat, rest) := by
    simp only [readUnit, Text.hexFrom?, hzero, hhigh, hlow, Option.map_some]
    congr 2
    omega
  unfold readEscape
  rw [hunit]
  simp [show c.toNat < 55296 by omega]

theorem readString_escapedChar (fuel : Nat) (acc : List Char) (c : Char) (rest : List Char) :
    readString (fuel + 1) (some acc) (escapedChar c ++ rest) =
      readString fuel (some (c :: acc)) rest := by
  unfold escapedChar
  iterate 7
    split
    · rename_i h
      subst h
      rfl
  split
  · rename_i hc
    have hescape := readEscape_control hc rest
    simp [readString, hescape]
  · rename_i hquote hslash _ _ _ _ _ hcontrol
    simp [readString, hquote, hslash, hcontrol]

theorem readString_written (s : List Char) (rest : List Char) :
    forall fuel acc, s.length < fuel ->
      readString fuel (some acc) (s.flatMap escapedChar ++ '"' :: rest) =
        some (some (s.reverse ++ acc), rest) := by
  induction s with
  | nil =>
      intro fuel acc hfuel
      cases fuel with
      | zero => omega
      | succ fuel => rfl
  | cons c s ih =>
      intro fuel acc hfuel
      cases fuel with
      | zero => omega
      | succ fuel =>
          rw [List.flatMap_cons, List.append_assoc, readString_escapedChar,
            ih fuel (c :: acc) (by simpa using hfuel)]
          simp

theorem escapedChar_ne_nil (c : Char) : escapedChar c ≠ [] := by
  unfold escapedChar
  repeat' split
  all_goals simp

theorem length_le_escaped (s : List Char) : s.length ≤ (s.flatMap escapedChar).length := by
  induction s with
  | nil => simp
  | cons c s ih =>
      have hpos : 0 < (escapedChar c).length := List.length_pos_iff.mpr (escapedChar_ne_nil c)
      rw [List.flatMap_cons, List.length_append, List.length_cons]
      omega

theorem readText_written (s : String) (rest : List Char) :
    readText (s.toList.flatMap escapedChar ++ '"' :: rest) = some (some s, rest) := by
  have hlength := length_le_escaped s.toList
  unfold readText
  rw [readString_written s.toList rest _ [] (by rw [List.length_append]; omega)]
  simp

/-!
## Names

The note about escapes only depends on the text: a name is escaped when one of
its characters cannot stand for itself.
-/

/-- Whether a character cannot stand for itself in a string. -/
def mustEscape (c : Char) : Bool :=
  c = '"' || c = '\\' || c.toNat < 32

/-- The name with the note whether writing it takes escapes. -/
def Name.spelled (name : Name) : Name where
  text := name.text
  escaped := name.text.toList.any mustEscape

theorem escapedChar_of_mustEscape {c : Char} (h : mustEscape c = true) :
    exists more, escapedChar c = '\\' :: more := by
  unfold escapedChar
  repeat' split
  case isFalse hquote hslash _ _ _ _ _ hcontrol =>
    simp [mustEscape, hquote, hslash, hcontrol] at h
  all_goals exact ⟨_, rfl⟩

theorem escapedChar_of_plain {c : Char} (h : mustEscape c = false) : escapedChar c = [c] := by
  simp only [mustEscape, Bool.or_eq_false_iff, decide_eq_false_iff_not] at h
  rcases h with ⟨⟨hquote, hslash⟩, hcontrol⟩
  have hother : forall d : Char, d.toNat < 32 -> c ≠ d := by
    intro d hd heq
    exact hcontrol (heq ▸ hd)
  unfold escapedChar
  rw [if_neg hquote, if_neg hslash, if_neg (hother _ (by decide)),
    if_neg (hother _ (by decide)), if_neg (hother _ (by decide)),
    if_neg (hother _ (by decide)), if_neg (hother _ (by decide)), if_neg hcontrol]

theorem contains_escape (s rest : List Char) :
    ((s.flatMap escapedChar ++ '"' :: rest).takeWhile fun c => c != '"').contains '\\' =
      s.any mustEscape := by
  induction s with
  | nil => rfl
  | cons c s ih =>
      rw [List.flatMap_cons, List.append_assoc, List.any_cons]
      cases hc : mustEscape c with
      | true =>
          rcases escapedChar_of_mustEscape hc with ⟨more, hmore⟩
          rw [hmore]
          rfl
      | false =>
          rw [escapedChar_of_plain hc]
          simp only [mustEscape, Bool.or_eq_false_iff, decide_eq_false_iff_not] at hc
          rcases hc with ⟨⟨hquote, hslash⟩, _⟩
          simp [hquote, Ne.symm hslash, <- ih]

theorem readName_written (name : Name) (rest : List Char) :
    readName (name.text.toList.flatMap escapedChar ++ '"' :: rest) =
      some (some name.spelled, rest) := by
  unfold readName
  rw [readText_written, contains_escape]
  rfl

/-!
## Blanks
-/

/-- A text that starts with a token. -/
def StartsToken (s : List Char) : Prop :=
  s.head?.any (fun c => !isBlank c) = true

theorem skipBlanks_of_starts {s : List Char} (h : StartsToken s) : skipBlanks s = s := by
  cases s with
  | nil => cases h
  | cons c s =>
      have hc : isBlank c = false := by simpa [StartsToken] using h
      simp [skipBlanks, hc]

theorem StartsToken.append {s : List Char} (h : StartsToken s) (rest : List Char) :
    StartsToken (s ++ rest) := by
  cases s with
  | nil => cases h
  | cons c s => exact h

theorem skipBlanks_newLine (level : Nat) {s : List Char} (h : StartsToken s) :
    skipBlanks (newLine level ++ s) = s := by
  have hblank : forall c, c ∈ newLine level -> isBlank c = true := by
    intro c hc
    rcases List.mem_cons.mp hc with hc | hc
    · rw [hc]
      rfl
    · rw [List.eq_of_mem_replicate hc]
      rfl
  unfold skipBlanks
  rw [List.dropWhile_append_of_pos hblank]
  exact skipBlanks_of_starts h

/-!
## Values

Only a value that denotes something and has no number with a fraction or an
exponent is written so that it can be read.
-/

mutual

/-- The value with every name noted as escaped when writing it takes escapes. -/
def spelled : Json -> Json
  | null => .null
  | bool value => .bool value
  | int value => .int value
  | real text => .real text
  | str value => .str value
  | arr items => .arr (spelledItems items)
  | obj members => .obj (spelledMembers members)
  | broken => .broken

def spelledItems : List Json -> List Json
  | [] => []
  | item :: rest => spelled item :: spelledItems rest

def spelledMembers : List (Name × Json) -> List (Name × Json)
  | [] => []
  | (name, value) :: rest => (name.spelled, spelled value) :: spelledMembers rest

end

/-- A value without `real` and `broken` parts. -/
inductive Writable : Json -> Prop where
  | null : Writable .null
  | bool (value : Bool) : Writable (.bool value)
  | int (value : Int) : Writable (.int value)
  | str (value : String) : Writable (.str value)
  | arr (items : List Json) (h : forall item, item ∈ items -> Writable item) :
      Writable (.arr items)
  | obj (members : List (Name × Json))
      (h : forall member, member ∈ members -> Writable member.2) : Writable (.obj members)

/-- A value is read back from its layout at every level. -/
def ReadsBack (value : Json) : Prop :=
  forall level fuel rest, (indentedChars level value).length ≤ fuel -> EndsNumber rest ->
    readValue fuel (indentedChars level value ++ rest) = some (spelled value, rest)

theorem startsToken_of_isDigit {c : Char} (h : c.isDigit = true) (rest : List Char) :
    StartsToken (c :: rest) := by
  have hblank : isBlank c = false := by
    simp only [isBlank, Bool.or_eq_false_iff, decide_eq_false_iff_not]
    refine ⟨⟨⟨?_, ?_⟩, ?_⟩, ?_⟩
    all_goals
      rintro rfl
      cases h
  simp [StartsToken, hblank]

theorem head_signedDecimal (n : Int) :
    exists c rest, Text.signedDecimal n = c :: rest ∧ (c.isDigit = true ∨ c = '-') := by
  cases n with
  | ofNat n =>
      cases hd : Text.decimal n with
      | nil => exact absurd hd (Text.decimal_ne_nil n)
      | cons c rest =>
          have hc : c.isDigit = true := Text.isDigit_of_mem_decimal (n := n) (by simp [hd])
          exact ⟨c, rest, hd, Or.inl hc⟩
  | negSucc n => exact ⟨'-', _, rfl, Or.inr rfl⟩

theorem head_indentedChars {value : Json} (h : Writable value) (level : Nat) :
    StartsToken (indentedChars level value) ∧
      forall rest, indentedChars level value ≠ ']' :: rest := by
  cases h with
  | null => exact ⟨rfl, fun _ heq => by cases heq⟩
  | bool value =>
      cases value with
      | true => exact ⟨rfl, fun _ heq => by cases heq⟩
      | false => exact ⟨rfl, fun _ heq => by cases heq⟩
  | int n =>
      rcases head_signedDecimal n with ⟨c, rest, heq, hc⟩
      show StartsToken (Text.signedDecimal n) ∧ forall rest, Text.signedDecimal n ≠ ']' :: rest
      rw [heq]
      rcases hc with hc | hc
      · refine ⟨startsToken_of_isDigit hc rest, fun _ hclose => ?_⟩
        cases hclose
        cases hc
      · subst hc
        exact ⟨rfl, fun _ hclose => by cases hclose⟩
  | str s => exact ⟨rfl, fun _ heq => by cases heq⟩
  | arr items _ => exact ⟨rfl, fun _ heq => by cases heq⟩
  | obj members _ => exact ⟨rfl, fun _ heq => by cases heq⟩

theorem readValue_number {c : Char} (hc : c.isDigit = true ∨ c = '-') (fuel : Nat)
    (rest : List Char) : readValue (fuel + 1) (c :: rest) = readNumber (c :: rest) := by
  unfold readValue
  split
  case h_7 => rfl
  all_goals
    rename_i heq
    cases heq
    simp at hc

theorem length_newLine_pos (level : Nat) : 0 < (newLine level).length :=
  Nat.zero_lt_succ _

theorem endsNumber_newLine (level : Nat) (rest : List Char) :
    EndsNumber (newLine level ++ rest) :=
  ⟨rfl, by decide, by decide, by decide⟩

theorem endsNumber_comma (rest : List Char) : EndsNumber (',' :: rest) :=
  ⟨rfl, by decide, by decide, by decide⟩

theorem indentedMoreItems_cons (level : Nat) (item : Json) (items : List Json)
    (rest : List Char) :
    indentedMoreItems level (item :: items) ++ rest =
      ',' :: (newLine (level + 1) ++
        (indentedChars (level + 1) item ++ (indentedMoreItems level items ++ rest))) := by
  simp [indentedMoreItems]

theorem endsNumber_moreItems (level : Nat) (items : List Json) (rest : List Char) :
    EndsNumber (indentedMoreItems level items ++ rest) := by
  cases items with
  | nil =>
      rw [indentedMoreItems, List.append_assoc]
      exact endsNumber_newLine level _
  | cons item items =>
      rw [indentedMoreItems_cons]
      exact endsNumber_comma _

theorem readElements_close {level fuel : Nat} {item : Json} {rest more : List Char}
    (acc : List Json) (hitem : ReadsBack item)
    (hfuel : (indentedChars level item).length ≤ fuel) (hends : EndsNumber rest)
    (hrest : skipBlanks rest = ']' :: more) :
    readElements (fuel + 1) acc (indentedChars level item ++ rest) =
      some (.arr (spelled item :: acc).reverse, more) := by
  simp only [readElements, hitem level fuel rest hfuel hends, hrest]

theorem readElements_comma {level fuel : Nat} {item : Json} {rest more : List Char}
    (acc : List Json) (hitem : ReadsBack item)
    (hfuel : (indentedChars level item).length ≤ fuel) (hends : EndsNumber rest)
    (hrest : skipBlanks rest = ',' :: more) :
    readElements (fuel + 1) acc (indentedChars level item ++ rest) =
      readElements fuel (spelled item :: acc) (skipBlanks more) := by
  simp only [readElements, hitem level fuel rest hfuel hends, hrest]

theorem readElements_written (level : Nat) {items : List Json} :
    forall {first : Json} (fuel : Nat) (acc : List Json) (rest : List Char),
      (forall item, item ∈ first :: items -> Writable item ∧ ReadsBack item) ->
      (indentedChars (level + 1) first ++ indentedMoreItems level items).length < fuel ->
      readElements fuel acc
          (indentedChars (level + 1) first ++ (indentedMoreItems level items ++ rest)) =
        some (.arr (acc.reverse ++ spelledItems (first :: items)), rest) := by
  -- On the elements after the first, so that each one is read up to a comma or the bracket.
  induction items with
  | nil =>
      intro first fuel acc rest hitems hfuel
      cases fuel with
      | zero => omega
      | succ fuel =>
          have hclose : skipBlanks (indentedMoreItems level [] ++ rest) = ']' :: rest := by
            rw [indentedMoreItems, List.append_assoc]
            exact skipBlanks_newLine level rfl
          rw [List.length_append] at hfuel
          rw [readElements_close acc (hitems first (List.mem_cons_self ..)).2 (by omega)
            (endsNumber_moreItems level [] rest) hclose]
          simp [spelledItems]
  | cons second items ih =>
      intro first fuel acc rest hitems hfuel
      cases fuel with
      | zero => omega
      | succ fuel =>
          have hends := endsNumber_moreItems level (second :: items) rest
          have hlength := congrArg List.length (indentedMoreItems_cons level second items [])
          have hstart := (head_indentedChars (hitems second (by simp)).1 (level + 1)).1
          simp only [List.append_nil, List.length_cons, List.length_append] at hlength hfuel
          rw [indentedMoreItems_cons] at hends
          rw [indentedMoreItems_cons, readElements_comma acc
              (hitems first (List.mem_cons_self ..)).2 (by omega) hends
              (skipBlanks_of_starts rfl),
            skipBlanks_newLine (level + 1) (hstart.append _),
            ih fuel (spelled first :: acc) rest
              (fun item h => hitems item (List.mem_cons_of_mem _ h))
              (by rw [List.length_append]; omega)]
          simp [spelledItems]

/-- The text of one member after the blanks in front of it. -/
def memberChars (level : Nat) (member : Name × Json) : List Char :=
  writtenString member.1.text ++ ':' :: ' ' :: indentedChars level member.2

theorem length_memberChars (level : Nat) (member : Name × Json) :
    (indentedChars level member.2).length < (memberChars level member).length := by
  simp [memberChars]
  omega

theorem indentedMoreMembers_cons (level : Nat) (member : Name × Json)
    (members : List (Name × Json)) (rest : List Char) :
    indentedMoreMembers level (member :: members) ++ rest =
      ',' :: (newLine (level + 1) ++
        (memberChars (level + 1) member ++ (indentedMoreMembers level members ++ rest))) := by
  simp [indentedMoreMembers, memberChars]

theorem endsNumber_moreMembers (level : Nat) (members : List (Name × Json))
    (rest : List Char) : EndsNumber (indentedMoreMembers level members ++ rest) := by
  cases members with
  | nil =>
      rw [indentedMoreMembers, List.append_assoc]
      exact endsNumber_newLine level _
  | cons member members =>
      rw [indentedMoreMembers_cons]
      exact endsNumber_comma _

theorem readName_memberChars (level : Nat) (member : Name × Json) (rest : List Char) :
    exists start, memberChars level member ++ rest = '"' :: start ∧
      readName start =
        some (some member.1.spelled, ':' :: ' ' :: (indentedChars level member.2 ++ rest)) := by
  refine ⟨_, rfl, ?_⟩
  have hread := readName_written member.1
    (':' :: ' ' :: (indentedChars level member.2 ++ rest))
  simpa using hread

theorem readMembers_close {level fuel : Nat} {member : Name × Json} {rest more : List Char}
    (acc : List (Name × Json)) (hvalue : Writable member.2) (hmember : ReadsBack member.2)
    (hfuel : (indentedChars level member.2).length ≤ fuel) (hends : EndsNumber rest)
    (hrest : skipBlanks rest = '\x7d' :: more) :
    readMembers (fuel + 1) (some acc) (memberChars level member ++ rest) =
      some (.obj ((member.1.spelled, spelled member.2) :: acc).reverse, more) := by
  rcases readName_memberChars level member rest with ⟨start, hstart, hname⟩
  have hcolon : skipBlanks (':' :: ' ' :: (indentedChars level member.2 ++ rest)) =
      ':' :: ' ' :: (indentedChars level member.2 ++ rest) := skipBlanks_of_starts rfl
  have hspace : skipBlanks (' ' :: (indentedChars level member.2 ++ rest)) =
      indentedChars level member.2 ++ rest :=
    skipBlanks_of_starts ((head_indentedChars hvalue level).1.append rest)
  rw [hstart]
  simp only [readMembers, hname, hcolon, hspace, hmember level fuel rest hfuel hends, hrest,
    objectOf]

theorem readMembers_comma {level fuel : Nat} {member : Name × Json} {rest more : List Char}
    (acc : List (Name × Json)) (hvalue : Writable member.2) (hmember : ReadsBack member.2)
    (hfuel : (indentedChars level member.2).length ≤ fuel) (hends : EndsNumber rest)
    (hrest : skipBlanks rest = ',' :: more) :
    readMembers (fuel + 1) (some acc) (memberChars level member ++ rest) =
      readMembers fuel (some ((member.1.spelled, spelled member.2) :: acc))
        (skipBlanks more) := by
  rcases readName_memberChars level member rest with ⟨start, hstart, hname⟩
  have hcolon : skipBlanks (':' :: ' ' :: (indentedChars level member.2 ++ rest)) =
      ':' :: ' ' :: (indentedChars level member.2 ++ rest) := skipBlanks_of_starts rfl
  have hspace : skipBlanks (' ' :: (indentedChars level member.2 ++ rest)) =
      indentedChars level member.2 ++ rest :=
    skipBlanks_of_starts ((head_indentedChars hvalue level).1.append rest)
  rw [hstart]
  simp only [readMembers, hname, hcolon, hspace, hmember level fuel rest hfuel hends, hrest]

theorem readMembers_written (level : Nat) {members : List (Name × Json)} :
    forall {first : Name × Json} (fuel : Nat) (acc : List (Name × Json)) (rest : List Char),
      (forall member, member ∈ first :: members ->
        Writable member.2 ∧ ReadsBack member.2) ->
      (memberChars (level + 1) first ++ indentedMoreMembers level members).length < fuel ->
      readMembers fuel (some acc)
          (memberChars (level + 1) first ++ (indentedMoreMembers level members ++ rest)) =
        some (.obj (acc.reverse ++ spelledMembers (first :: members)), rest) := by
  induction members with
  | nil =>
      intro first fuel acc rest hmembers hfuel
      cases fuel with
      | zero => omega
      | succ fuel =>
          have hfirst := hmembers first (List.mem_cons_self ..)
          have hclose : skipBlanks (indentedMoreMembers level [] ++ rest) =
              '\x7d' :: rest := by
            rw [indentedMoreMembers, List.append_assoc]
            exact skipBlanks_newLine level rfl
          have hlength := length_memberChars (level + 1) first
          rw [List.length_append] at hfuel
          rw [readMembers_close acc hfirst.1 hfirst.2 (by omega)
            (endsNumber_moreMembers level [] rest) hclose]
          simp [spelledMembers]
  | cons second members ih =>
      intro first fuel acc rest hmembers hfuel
      cases fuel with
      | zero => omega
      | succ fuel =>
          have hfirst := hmembers first (List.mem_cons_self ..)
          have hends := endsNumber_moreMembers level (second :: members) rest
          have hlength := length_memberChars (level + 1) first
          have hmore := congrArg List.length (indentedMoreMembers_cons level second members [])
          simp only [List.append_nil, List.length_cons, List.length_append] at hmore hfuel
          rw [indentedMoreMembers_cons] at hends
          rw [indentedMoreMembers_cons, readMembers_comma acc hfirst.1 hfirst.2 (by omega)
              hends (skipBlanks_of_starts rfl),
            skipBlanks_newLine (level + 1) (show StartsToken (memberChars _ _ ++ _) from rfl),
            ih fuel _ rest (fun member h => hmembers member (List.mem_cons_of_mem _ h))
              (by rw [List.length_append]; omega)]
          simp [spelledMembers]

theorem readsBack_arr {items : List Json}
    (h : forall item, item ∈ items -> Writable item ∧ ReadsBack item) :
    ReadsBack (.arr items) := by
  intro level fuel rest hfuel _
  cases fuel with
  | zero => simp [indentedChars] at hfuel
  | succ fuel =>
      cases items with
      | nil => rfl
      | cons first items =>
          rcases head_indentedChars (h first (List.mem_cons_self ..)).1 (level + 1) with
            ⟨hstart, hclose⟩
          have hchars : indentedChars level (.arr (first :: items)) ++ rest =
              '[' :: (newLine (level + 1) ++ (indentedChars (level + 1) first ++
                (indentedMoreItems level items ++ rest))) := by
            simp [indentedChars, indentedItems]
          have hskip := skipBlanks_newLine (level + 1)
            (hstart.append (indentedMoreItems level items ++ rest))
          have hpos := length_newLine_pos (level + 1)
          have hread := readElements_written level fuel [] rest h (by
            simp only [indentedChars, indentedItems, List.length_cons,
              List.length_append] at hfuel ⊢
            omega)
          rw [hchars]
          simp only [readValue, hskip]
          split
          · -- The first element does not start with the bracket of an empty array.
            rename_i more heq
            cases hd : indentedChars (level + 1) first with
            | nil => simp [StartsToken, hd] at hstart
            | cons c chars =>
                rw [hd] at heq
                cases heq
                exact absurd hd (hclose chars)
          · rw [hread]
            rfl

theorem readsBack_obj {members : List (Name × Json)}
    (h : forall member, member ∈ members -> Writable member.2 ∧ ReadsBack member.2) :
    ReadsBack (.obj members) := by
  intro level fuel rest hfuel _
  cases fuel with
  | zero => simp [indentedChars] at hfuel
  | succ fuel =>
      cases members with
      | nil => rfl
      | cons first members =>
          have hchars : indentedChars level (.obj (first :: members)) ++ rest =
              '\x7b' :: (newLine (level + 1) ++ (memberChars (level + 1) first ++
                (indentedMoreMembers level members ++ rest))) := by
            simp [indentedChars, indentedMembers, memberChars]
          have hskip := skipBlanks_newLine (level + 1)
            (show StartsToken (memberChars (level + 1) first ++
              (indentedMoreMembers level members ++ rest)) from rfl)
          have hpos := length_newLine_pos (level + 1)
          have hread := readMembers_written level fuel [] rest h (by
            simp only [indentedChars, indentedMembers, memberChars, List.length_cons,
              List.length_append] at hfuel ⊢
            omega)
          rw [hchars]
          simp only [readValue, hskip]
          split
          · rename_i more heq
            cases heq
          · rw [hread]
            rfl

/-- Every writable value is read back from its layout. -/
theorem Writable.readsBack {value : Json} (h : Writable value) : ReadsBack value := by
  induction h with
  | null =>
      intro level fuel rest hfuel _
      cases fuel with
      | zero => simp [indentedChars] at hfuel
      | succ fuel => rfl
  | bool value =>
      intro level fuel rest hfuel _
      cases fuel with
      | zero => cases value <;> simp [indentedChars] at hfuel
      | succ fuel => cases value <;> rfl
  | int n =>
      intro level fuel rest hfuel hrest
      rcases head_signedDecimal n with ⟨c, chars, hchars, hc⟩
      cases fuel with
      | zero => simp [indentedChars, hchars] at hfuel
      | succ fuel =>
          have hread := readNumber_signedDecimal n hrest
          rw [hchars] at hread
          show readValue (fuel + 1) (Text.signedDecimal n ++ rest) = some (.int n, rest)
          rw [hchars, List.cons_append, readValue_number hc]
          exact hread
  | str s =>
      intro level fuel rest hfuel _
      cases fuel with
      | zero => simp [indentedChars, writtenString] at hfuel
      | succ fuel =>
          have hread := readText_written s rest
          simp [indentedChars, writtenString, readValue, hread, spelled]
  | arr items hitems ih => exact readsBack_arr fun item h => ⟨hitems item h, ih item h⟩
  | obj members hmembers ih =>
      exact readsBack_obj fun member h => ⟨hmembers member h, ih member h⟩

/-- A document of one writable value is parsed to that value. -/
theorem parse?_indented {value : Json} (h : Writable value) :
    parse? (indentedChars 0 value ++ ['\n']) = some (spelled value) := by
  have hread := h.readsBack 0 ((indentedChars 0 value ++ ['\n']).length + 1) ['\n']
    (by rw [List.length_append]; omega) (endsNumber_newLine 0 [])
  unfold parse?
  rw [skipBlanks_of_starts ((head_indentedChars h 0).1.append ['\n']), hread]
  rfl

end Json
end Whereabouts
