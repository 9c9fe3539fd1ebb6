import Whereabouts.Settings.Variables

/-!
# What variables give

The values that the text of a variable gives, told by how they are written: a text with
blanks around it, an unsigned number, the name of a kind of storage in letters of either
case, or elements between commas.  What is written otherwise gives nothing.
-/

namespace Whereabouts
namespace Text

/-!
## Blanks
-/

/-- A text is another one without the blanks on either side. -/
structure Trims (s t : List Char) : Prop where
  around : exists front back, s = front ++ t ++ back ∧
    (forall c, c ∈ front -> isBlank c = true) ∧ (forall c, c ∈ back -> isBlank c = true)
  starts : forall c, t.head? = some c -> isBlank c = false
  ends : forall c, t.getLast? = some c -> isBlank c = false

theorem trimmed_of_trims {s t : List Char} (h : Trims s t) : trimmed s = t := by
  rcases h with ⟨⟨front, back, rfl, hfront, hback⟩, hstarts, hends⟩
  have hback' : forall c, c ∈ back.reverse -> isBlank c = true :=
    fun c hc => hback c (List.mem_reverse.mp hc)
  rw [trimmed, dropStart, List.append_assoc]
  cases t with
  | nil =>
      have hblank : forall c, c ∈ front ++ back -> isBlank c = true :=
        fun c hc => (List.mem_append.mp hc).elim (hfront c) (hback c)
      have hnone : (front ++ back ++ []).dropWhile isBlank = [] :=
        dropWhile_run hblank fun _ hc => nomatch hc
      rw [List.nil_append, <- List.append_nil (front ++ back), hnone]
      rfl
  | cons c t =>
      have hstart : (front ++ (c :: t ++ back)).dropWhile isBlank = c :: t ++ back :=
        dropWhile_run hfront fun d hd => hstarts d hd
      have hend : forall d, (c :: t).reverse.head? = some d -> isBlank d = false :=
        fun d hd => hends d (by rwa [List.head?_reverse] at hd)
      rw [hstart, dropEnd, List.reverse_append, dropWhile_run hback' hend, List.reverse_reverse]

theorem trims_trimmed (s : List Char) : Trims s (trimmed s) := by
  have hfront := List.takeWhile_append_dropWhile (p := isBlank) (l := s)
  have hback := List.takeWhile_append_dropWhile (p := isBlank)
    (l := (s.dropWhile isBlank).reverse)
  have hsplit : s.dropWhile isBlank =
      trimmed s ++ ((s.dropWhile isBlank).reverse.takeWhile isBlank).reverse := by
    have hreversed := congrArg List.reverse hback
    rw [List.reverse_append, List.reverse_reverse] at hreversed
    exact hreversed.symm
  refine ⟨⟨s.takeWhile isBlank, ((s.dropWhile isBlank).reverse.takeWhile isBlank).reverse,
    ?_, ?_, ?_⟩, ?_, ?_⟩
  · rw [List.append_assoc, <- hsplit, hfront]
  · exact fun c hc => List.all_eq_true.mp List.all_takeWhile c hc
  · exact fun c hc => List.all_eq_true.mp List.all_takeWhile c (List.mem_reverse.mp hc)
  · intro c hc
    have hhead : (s.dropWhile isBlank).head? = some c := by
      rw [hsplit, List.head?_append, hc]
      rfl
    exact head?_dropWhile hhead
  · intro c hc
    rw [trimmed, dropEnd, List.getLast?_reverse] at hc
    exact head?_dropWhile hc

theorem trims_iff {s t : List Char} : Trims s t <-> trimmed s = t :=
  ⟨trimmed_of_trims, fun h => h ▸ trims_trimmed s⟩

theorem trimmed_eq_nil_iff {s : List Char} :
    trimmed s = [] <-> forall c, c ∈ s -> isBlank c = true := by
  constructor
  · intro h
    rcases (trims_iff.mpr h).around with ⟨front, back, rfl, hfront, hback⟩
    intro c hc
    rw [List.append_nil] at hc
    exact (List.mem_append.mp hc).elim (hfront c) (hback c)
  · intro h
    exact trimmed_of_trims ⟨⟨s, [], by simp, h, fun _ hc => nomatch hc⟩,
      (fun _ hc => nomatch hc), fun _ hc => nomatch hc⟩

theorem nonBlank?_eq_some_iff {raw value : String} :
    nonBlank? raw = some value <-> Trims raw.toList value.toList ∧ value ≠ "" := by
  have hblank : isBlankText raw = true <-> trimmed raw.toList = [] := by
    rw [isBlankText, List.all_eq_true, trimmed_eq_nil_iff]
  unfold nonBlank?
  split
  · rename_i h
    rw [trims_iff, hblank.mp h]
    refine ⟨(fun h => nomatch h), ?_⟩
    rintro ⟨hnil, hne⟩
    exact absurd (String.toList_eq_nil_iff.mp hnil.symm) hne
  · rename_i h
    rw [trims_iff, Option.some_inj, trim]
    constructor
    · rintro rfl
      rw [String.toList_ofList]
      refine ⟨rfl, fun hempty => h (hblank.mpr ?_)⟩
      exact String.ofList_eq_empty_iff.mp hempty
    · rintro ⟨hvalue, _⟩
      rw [hvalue, String.ofList_toList]

/-!
## Numbers
-/

/-- The value of some digits behind those of another number. -/
def digitsValue (front : Nat) (digits : List Char) : Nat :=
  digits.foldl (fun value c => value * 10 + (c.toNat - 48)) front

/-- A number written with decimal digits, with or without a plus sign in front. -/
def Counts (s : List Char) (n : Nat) : Prop :=
  exists digits, (s = digits ∨ s = '+' :: digits) ∧ digits ≠ [] ∧
    (forall c, c ∈ digits -> c.isDigit = true) ∧ n = digitsValue 0 digits

theorem decimalFrom?_eq_some_iff {front n : Nat} {digits : List Char} :
    decimalFrom? front digits = some n <->
      (forall c, c ∈ digits -> c.isDigit = true) ∧ n = digitsValue front digits := by
  induction digits generalizing front with
  | nil =>
      rw [decimalFrom?, Option.some_inj]
      exact ⟨fun h => ⟨List.forall_mem_nil _, h.symm⟩, fun h => h.2.symm⟩
  | cons c digits ih =>
      rw [decimalFrom?, digitValue?, List.forall_mem_cons]
      cases c.isDigit with
      | false => simp
      | true =>
          show decimalFrom? (front * 10 + (c.toNat - 48)) digits = some n <->
            _ ∧ n = digitsValue (front * 10 + (c.toNat - 48)) digits
          simpa using ih

theorem decimal?_eq_some_iff {n : Nat} {digits : List Char} :
    decimal? digits = some n <-> digits ≠ [] ∧
      (forall c, c ∈ digits -> c.isDigit = true) ∧ n = digitsValue 0 digits := by
  unfold decimal?
  split
  · rename_i h
    simp [List.isEmpty_iff.mp h]
  · rename_i h
    rw [decimalFrom?_eq_some_iff]
    simpa using fun _ _ => h

def unsigned : List Char -> List Char
  | '+' :: rest => rest
  | s => s

theorem unsigned_cases (s : List Char) : s = unsigned s ∨ s = '+' :: unsigned s := by
  unfold unsigned
  split
  · exact Or.inr rfl
  · exact Or.inl rfl

theorem unsigned_of_digits {s : List Char} (h : forall c, c ∈ s -> c.isDigit = true) :
    unsigned s = s := by
  unfold unsigned
  split
  · exact absurd (h '+' List.mem_cons_self) (by decide)
  · rfl

/-- As a plus sign is no digit, one in front of a number is not part of its digits. -/
theorem counts_iff {s : List Char} {n : Nat} : Counts s n <-> decimal? (unsigned s) = some n := by
  rw [decimal?_eq_some_iff]
  constructor
  · rintro ⟨digits, rfl | rfl, hne, hdigits, hn⟩
    · rw [unsigned_of_digits hdigits]
      exact ⟨hne, hdigits, hn⟩
    · exact ⟨hne, hdigits, hn⟩
  · rintro ⟨hne, hdigits, hn⟩
    exact ⟨unsigned s, unsigned_cases s, hne, hdigits, hn⟩

theorem count?_eq_bind (top : Nat) (s : List Char) :
    count? top s = (decimal? (unsigned s)).bind fun n => if n ≤ top then some n else none := by
  fun_cases unsigned s with
  | case1 rest =>
      simp only [count?]
      cases decimal? rest <;> rfl
  | case2 s _ =>
      simp only [count?]
      cases decimal? s <;> rfl

theorem count?_eq_some_iff {top n : Nat} {s : List Char} :
    count? top s = some n <-> Counts s n ∧ n ≤ top := by
  rw [count?_eq_bind, counts_iff, Option.bind_eq_some_iff]
  constructor
  · rintro ⟨value, hvalue, hbound⟩
    split at hbound
    · rename_i hle
      cases hbound
      exact ⟨hvalue, hle⟩
    · cases hbound
  · rintro ⟨hvalue, hle⟩
    exact ⟨n, hvalue, if_pos hle⟩

/-!
## Lists
-/

/-- The parts of a text that are more than blanks, without the blanks on either side, in
their order. -/
inductive Elements : List (List Char) -> List String -> Prop
  | nil : Elements [] []
  | blank {part : List Char} {rest : List (List Char)} {values : List String}
      (hpart : forall c, c ∈ part -> isBlank c = true) (others : Elements rest values) :
      Elements (part :: rest) values
  | element {part : List Char} {rest : List (List Char)} {value : String} {values : List String}
      (hpart : Trims part value.toList) (hvalue : value ≠ "") (others : Elements rest values) :
      Elements (part :: rest) (value :: values)

def elements (parts : List (List Char)) : List (List Char) :=
  (parts.map trimmed).filter fun element => !element.isEmpty

theorem elements_cons_of_blank {part : List Char} (h : forall c, c ∈ part -> isBlank c = true)
    (rest : List (List Char)) : elements (part :: rest) = elements rest := by
  rw [elements, List.map_cons, trimmed_eq_nil_iff.mpr h]
  rfl

theorem elements_cons_of_trims {part element : List Char} (h : Trims part element)
    (hne : element ≠ []) (rest : List (List Char)) :
    elements (part :: rest) = element :: elements rest := by
  rw [elements, List.map_cons, trims_iff.mp h, List.filter_cons_of_pos (by simpa using hne)]
  rfl

theorem elements_iff {parts : List (List Char)} {values : List String} :
    Elements parts values <-> (elements parts).map String.ofList = values := by
  constructor
  · intro h
    induction h with
    | nil => rfl
    | blank hpart others ih => rw [elements_cons_of_blank hpart, ih]
    | element hpart hvalue others ih =>
        rw [elements_cons_of_trims hpart (fun h => hvalue (String.toList_eq_nil_iff.mp h)),
          List.map_cons, ih, String.ofList_toList]
  · rintro rfl
    induction parts with
    | nil => exact .nil
    | cons part rest ih =>
        by_cases hblank : trimmed part = []
        · have hpart := trimmed_eq_nil_iff.mp hblank
          rw [elements_cons_of_blank hpart]
          exact .blank hpart ih
        · rw [elements_cons_of_trims (trims_trimmed part) hblank, List.map_cons]
          refine .element (by rw [String.toList_ofList]; exact trims_trimmed part) ?_ ih
          exact fun hempty => hblank (String.ofList_eq_empty_iff.mp hempty)

end Text

theorem Backend.lookup_named_iff {word : String} {backend : Backend} :
    named.lookup word = some backend <-> word = backend.text := by
  show (match word == "http" with
    | true => some http
    | false => match word == "local" with
      | true => some «local»
      | false => none) = some backend <-> _
  cases hhttp : word == "http" with
  | true =>
      cases eq_of_beq hhttp
      cases backend <;> simp [text]
  | false =>
      cases hlocal : word == "local" with
      | true =>
          cases eq_of_beq hlocal
          cases backend <;> simp [text]
      | false =>
          cases backend <;> simp [text, ne_of_beq_false hhttp, ne_of_beq_false hlocal]

namespace Variables

variable {vars : Variables} {name : String}

theorem text?_eq_some_iff {value : String} :
    vars.text? name = some value <-> exists raw, vars.get? name = some raw ∧
      Text.Trims raw.toList value.toList ∧ value ≠ "" := by
  rw [text?, Option.bind_eq_some_iff]
  exact exists_congr fun raw => and_congr_right fun _ => Text.nonBlank?_eq_some_iff

theorem count?_eq_some_iff {value : Nat} :
    vars.count? name = some value <-> exists raw, vars.get? name = some raw ∧
      exists digits, Text.Trims raw.toList digits ∧ Text.Counts digits value ∧
        value < UInt64.size := by
  rw [count?, Option.bind_eq_some_iff]
  refine exists_congr fun raw => and_congr_right fun _ => ?_
  rw [Text.count?_eq_some_iff]
  constructor
  · rintro ⟨hcounts, hle⟩
    exact ⟨_, Text.trims_trimmed _, hcounts, Nat.lt_of_le_of_lt hle (by decide)⟩
  · rintro ⟨digits, htrims, hcounts, hlt⟩
    rw [Text.trims_iff.mp htrims]
    exact ⟨hcounts, Nat.le_pred_of_lt hlt⟩

theorem backend?_eq_some_iff {value : Backend} :
    vars.backend? name = some value <-> exists raw, vars.get? name = some raw ∧
      exists word, Text.Trims raw.toList word ∧ word.map Char.toLower = value.text.toList := by
  rw [backend?, Option.bind_eq_some_iff]
  refine exists_congr fun raw => and_congr_right fun _ => ?_
  show Backend.named.lookup (String.ofList ((Text.trimmed raw.toList).map Char.toLower)) =
    some value <-> _
  rw [Backend.lookup_named_iff, <- String.toList_inj, String.toList_ofList]
  constructor
  · intro h
    exact ⟨_, Text.trims_trimmed _, h⟩
  · rintro ⟨word, htrims, hword⟩
    rwa [Text.trims_iff.mp htrims]

theorem elements?_eq_some_iff {values : List String} :
    vars.elements? name = some values <-> exists raw, vars.get? name = some raw ∧
      Text.Elements (Text.pieces ',' raw.toList) values ∧ values ≠ [] := by
  rw [elements?, Option.bind_eq_some_iff]
  refine exists_congr fun raw => and_congr_right fun _ => ?_
  rw [Text.elements_iff]
  unfold Text.elements
  dsimp only
  cases ((Text.pieces ',' raw.toList).map Text.trimmed).filter fun element => !element.isEmpty with
  | nil => simp
  | cons element others =>
      rw [Option.some_inj, List.map_cons]
      exact ⟨fun h => ⟨h, h ▸ List.cons_ne_nil _ _⟩, And.left⟩

end Variables
end Whereabouts
