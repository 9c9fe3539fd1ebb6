import Whereabouts.Proofs.Encoding
import Whereabouts.Proofs.Names
import Whereabouts.Remote.Gateway

/-!
# Encoded paths

The path of an address can be read back: cut at its slashes and with every piece decoded it
gives the names in the path that was encoded.  It is made of a few ASCII characters and of
escapes, and each of its slashes stands between two pieces.
-/

namespace Whereabouts

/-!
## Escaped texts
-/

namespace Text

/-- Texts of plain characters and of escapes: percent signs with two hexadecimal digits. -/
inductive Escaped (plain : Char -> Prop) : List Char -> Prop
  | nil : Escaped plain []
  | plain {c : Char} {rest : List Char} (hc : plain c) (hrest : Escaped plain rest) :
      Escaped plain (c :: rest)
  | escape {hi lo : Char} {rest : List Char} (hhi : (hexValue? hi).isSome = true)
      (hlo : (hexValue? lo).isSome = true) (hrest : Escaped plain rest) :
      Escaped plain ('%' :: hi :: lo :: rest)

/-- ASCII letters and digits, and the four marks that need no encoding. -/
def IsPlain (c : Char) : Prop :=
  c.isAlphanum = true ∨ c ∈ ['-', '_', '.', '~']

instance : DecidablePred IsPlain := fun c =>
  inferInstanceAs (Decidable (c.isAlphanum = true ∨ c ∈ ['-', '_', '.', '~']))

section Escaped

variable {plain : Char -> Prop} {a b : List Char}

theorem Escaped.append (ha : Escaped plain a) (hb : Escaped plain b) : Escaped plain (a ++ b) := by
  induction ha with
  | nil => exact hb
  | plain hc _ ih => exact .plain hc ih
  | escape hhi hlo _ ih => exact .escape hhi hlo ih

theorem Escaped.mono {other : Char -> Prop} (ha : Escaped plain a)
    (h : forall c, plain c -> other c) : Escaped other a := by
  induction ha with
  | nil => exact .nil
  | plain hc _ ih => exact .plain (h _ hc) ih
  | escape hhi hlo _ ih => exact .escape hhi hlo ih

theorem escaped_flatMap {α : Type} {f : α -> List Char} (h : forall a, Escaped plain (f a))
    (as : List α) : Escaped plain (as.flatMap f) := by
  induction as with
  | nil => exact .nil
  | cons a as ih =>
      rw [List.flatMap_cons]
      exact (h a).append ih

theorem escaped_joined {sep : Char} (hsep : plain sep) {parts : List (List Char)}
    (h : forall part, part ∈ parts -> Escaped plain part) : Escaped plain (joined sep parts) := by
  induction parts with
  | nil => exact .nil
  | cons part rest ih =>
      have hpart := h part List.mem_cons_self
      cases rest with
      | nil => exact hpart
      | cons next others =>
          rw [joined]
          · exact hpart.append
              (.plain hsep (ih fun other hother => h other (List.mem_cons_of_mem part hother)))
          · exact List.cons_ne_nil next others

end Escaped

theorem isPlain_of_isUnreserved (b : UInt8) (h : isUnreserved b = true) :
    IsPlain (Char.ofNat b.toNat) := by
  revert b
  apply forall_byte
  decide +kernel

theorem escaped_encodedByte (b : UInt8) : Escaped IsPlain (encodedByte b) := by
  have hbound := b.toNat_lt
  have hhigh : b.toNat / 16 < 16 := by omega
  have hlow : b.toNat % 16 < 16 := by omega
  unfold encodedByte
  split
  · rename_i h
    exact .plain (isPlain_of_isUnreserved b h) .nil
  · apply Escaped.escape
    · rw [hexValue?_hexCapital hhigh]
      rfl
    · rw [hexValue?_hexCapital hlow]
      rfl
    · exact .nil

theorem escaped_percentEncoded (s : List Char) : Escaped IsPlain (percentEncoded s) :=
  escaped_flatMap (fun _ => escaped_flatMap escaped_encodedByte _) s

theorem percentEncoded_eq_nil_iff {s : List Char} : percentEncoded s = [] <-> s = [] :=
  percentEncoded_injective.eq_iff (b := [])

theorem separators_between {sep : Char} {s : List Char}
    (h : forall piece, piece ∈ pieces sep s -> piece ≠ []) :
    s.head? ≠ some sep ∧ s.getLast? ≠ some sep ∧ ¬ [sep, sep] <:+: s := by
  have hparted : forall front back, s = front ++ sep :: back ->
      forall piece, piece ∈ pieces sep front ∨ piece ∈ pieces sep back -> piece ≠ [] := by
    intro front back hs piece hpiece
    apply h piece
    rw [hs, pieces_append_sep]
    exact List.mem_append.mpr hpiece
  refine ⟨?_, ?_, ?_⟩
  · intro hhead
    rcases List.head?_eq_some_iff.mp hhead with ⟨back, hs⟩
    exact hparted [] back hs [] (Or.inl List.mem_cons_self) rfl
  · intro hlast
    rcases List.getLast?_eq_some_iff.mp hlast with ⟨front, hs⟩
    exact hparted front [] hs [] (Or.inr List.mem_cons_self) rfl
  · intro hdouble
    rcases hdouble with ⟨front, back, hs⟩
    rw [List.append_assoc] at hs
    have hempty : [] ∈ pieces sep (sep :: back) := by
      rw [pieces, if_pos rfl]
      exact List.mem_cons_self
    exact hparted front (sep :: back) hs.symm [] (Or.inr hempty) rfl

end Text

/-!
## Paths
-/

namespace Gateway

open RemotePath

theorem pieces_encodedPath (path : String) :
    Text.pieces '/' (encodedPath path) =
      if names path = [] then [[]] else (names path).map Text.percentEncoded := by
  change Text.pieces '/' (Text.joined '/' ((names path).map Text.percentEncoded)) = _
  split
  · rename_i hnil
    rw [hnil]
    rfl
  · rename_i hne
    refine Text.pieces_joined (fun h => hne (List.map_eq_nil_iff.mp h)) fun part hpart hslash => ?_
    rcases List.mem_map.mp hpart with ⟨name, _, rfl⟩
    exact absurd (Text.isEncodedChar_of_mem hslash) (by decide)

/-- The names that an encoded path stands for: its pieces, decoded.  The empty path has no
names. -/
def namesOf? (encoded : List Char) : Option (List (List Char)) :=
  if encoded = [] then some [] else (Text.pieces '/' encoded).mapM Text.percentText?

theorem encodedPath_eq_nil_iff {path : String} : encodedPath path = [] <-> names path = [] := by
  constructor
  · intro hencoded
    have hpieces := pieces_encodedPath path
    rw [hencoded] at hpieces
    split at hpieces
    · assumption
    · rcases List.map_eq_singleton_iff.mp hpieces.symm with ⟨name, hnames, hname⟩
      have hmem : name ∈ names path := by
        rw [hnames]
        exact List.mem_singleton_self name
      exact absurd (Text.percentEncoded_eq_nil_iff.mp hname) (of_mem_namesIn hmem).1
  · intro hnames
    change Text.joined '/' ((names path).map Text.percentEncoded) = []
    rw [hnames]
    rfl

theorem namesOf?_encodedPath (path : String) :
    namesOf? (encodedPath path) = some (names path) := by
  have hdecoded : forall segments : List (List Char),
      (segments.map Text.percentEncoded).mapM Text.percentText? = some segments := by
    intro segments
    induction segments with
    | nil => rfl
    | cons segment rest ih =>
        rw [List.map_cons, List.mapM_cons, Text.percentText?_percentEncoded, ih]
        rfl
  by_cases hnil : names path = []
  · rw [encodedPath_eq_nil_iff.mpr hnil, hnil]
    rfl
  · have hencoded : encodedPath path ≠ [] := fun h => hnil (encodedPath_eq_nil_iff.mp h)
    rw [namesOf?, if_neg hencoded, pieces_encodedPath, if_neg hnil, hdecoded]

theorem escaped_encodedPath (path : String) :
    Text.Escaped (fun c => Text.IsPlain c ∨ c = '/') (encodedPath path) := by
  apply Text.escaped_joined (Or.inr rfl)
  intro part hpart
  rcases List.mem_map.mp hpart with ⟨name, _, rfl⟩
  exact (Text.escaped_percentEncoded name).mono fun c => Or.inl

theorem slashes_encodedPath (path : String) :
    (encodedPath path).head? ≠ some '/' ∧ (encodedPath path).getLast? ≠ some '/' ∧
      ¬ ['/', '/'] <:+: encodedPath path := by
  by_cases hnil : names path = []
  · rw [encodedPath_eq_nil_iff.mpr hnil]
    decide
  · apply Text.separators_between
    intro piece hpiece
    rw [pieces_encodedPath, if_neg hnil] at hpiece
    rcases List.mem_map.mp hpiece with ⟨name, hname, rfl⟩
    exact fun hempty =>
      (of_mem_namesIn hname).1 (Text.percentEncoded_eq_nil_iff.mp hempty)

/-- An encoded path stands for the names in the path, so that two paths are encoded alike
exactly when they have the same names.  It holds nothing but ASCII letters, digits, four
marks, escapes, and slashes that stand between two pieces each. -/
theorem encodedPath_faithful (path : String) :
    namesOf? (encodedPath path) = some (names path) ∧
      (forall other, encodedPath path = encodedPath other <-> names path = names other) ∧
      Text.Escaped (fun c => Text.IsPlain c ∨ c = '/') (encodedPath path) ∧
      (encodedPath path).head? ≠ some '/' ∧ (encodedPath path).getLast? ≠ some '/' ∧
      ¬ ['/', '/'] <:+: encodedPath path := by
  refine ⟨namesOf?_encodedPath path, fun other => ⟨fun hsame => ?_, fun hsame => ?_⟩,
    escaped_encodedPath path, slashes_encodedPath path⟩
  · have hnames := congrArg namesOf? hsame
    rw [namesOf?_encodedPath, namesOf?_encodedPath] at hnames
    exact Option.some.inj hnames
  · change Text.joined '/' ((names path).map Text.percentEncoded) =
      Text.joined '/' ((names other).map Text.percentEncoded)
    rw [hsame]

example : String.ofList (encodedPath "//a b/100%/ü?#//") = "a%20b/100%25/%C3%BC%3F%23" := by
  decide +kernel

end Gateway
end Whereabouts
