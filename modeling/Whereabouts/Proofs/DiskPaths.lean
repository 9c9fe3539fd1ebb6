import Whereabouts.Disk.Tree
import Whereabouts.Proofs.Names

/-!
# Paths that are continued

A path that is continued by a name has the parts that it had and then the name, which is
its file name.
-/

namespace Whereabouts
namespace DiskPath

open RemotePath (IsName)

variable {name : String}

theorem isAbsolute_name (h : IsName name) : isAbsolute name = false := by
  cases hhead : isAbsolute name with
  | false => rfl
  | true =>
      rw [isAbsolute, beq_iff_eq] at hhead
      exact absurd (List.mem_of_mem_head? hhead) h.no_slash

theorem join_cases (base : String) (h : IsName name) :
    (base = "" ∧ join base name = name) ∨
    exists front : String, base ≠ "" ∧ (base = front ∨ base = front ++ "/") ∧
      join base name = front ++ "/" ++ name := by
  by_cases hbase : base = ""
  · subst hbase
    refine Or.inl ⟨rfl, ?_⟩
    rw [join, isAbsolute_name h]
    rfl
  · have hjoin : join base name = if base.toList.getLast? == some '/' then base ++ name
        else base ++ "/" ++ name := by
      rw [join, isAbsolute_name h, Bool.false_or, if_neg (by simpa using hbase)]
    refine Or.inr ?_
    split at hjoin
    · rename_i hlast
      rcases List.getLast?_eq_some_iff.mp (beq_iff_eq.mp hlast) with ⟨front, hfront⟩
      have hslash : base = String.ofList front ++ "/" := by
        apply String.toList_injective
        simpa using hfront
      refine ⟨String.ofList front, hbase, Or.inr hslash, ?_⟩
      rw [hjoin, hslash]
    · exact ⟨base, hbase, Or.inl rfl, hjoin⟩

theorem parts_append_slash (a b : String) : parts (a ++ "/" ++ b) = parts a ++ parts b := by
  have hnames : RemotePath.names (a ++ "/" ++ b) = RemotePath.names a ++ RemotePath.names b := by
    have htext : (a ++ "/" ++ b).toList = a.toList ++ '/' :: b.toList := by
      simp
    rw [RemotePath.names, htext, RemotePath.namesIn_append_slash]
    rfl
  exact (congrArg (List.map String.ofList) hnames).trans List.map_append

theorem parts_name (h : IsName name) : parts name = [name] := by
  have hne : name.toList ≠ [] := fun hnil => h.ne_empty (String.toList_injective hnil)
  refine (congrArg (List.map String.ofList) (RemotePath.namesIn_name hne h.no_slash)).trans ?_
  simp

theorem parts_join (base : String) (h : IsName name) :
    parts (join base name) = parts base ++ [name] := by
  rcases join_cases base h with ⟨rfl, hjoin⟩ | ⟨front, _, rfl | rfl, hjoin⟩
  · rw [hjoin, parts_name h]
    rfl
  · rw [hjoin, parts_append_slash, parts_name h]
  · have hslash : parts (front ++ "/") = parts front :=
      (congrArg parts String.append_empty.symm).trans
        ((parts_append_slash front "").trans (List.append_nil _))
    rw [hjoin, parts_append_slash, parts_name h, hslash]

theorem isAbsolute_join (base : String) (h : IsName name) :
    isAbsolute (join base name) = isAbsolute base := by
  rcases join_cases base h with ⟨rfl, hjoin⟩ | ⟨front, hne, rfl | rfl, hjoin⟩
  · rw [hjoin, isAbsolute_name h]
    rfl
  · have hlist : base.toList ≠ [] := fun hnil => hne (String.toList_injective hnil)
    rcases List.exists_cons_of_ne_nil hlist with ⟨c, rest, hcons⟩
    rw [hjoin, isAbsolute, isAbsolute, String.append_assoc, String.toList_append, hcons]
    rfl
  · rw [hjoin, isAbsolute, isAbsolute, String.toList_append, String.toList_append]
    cases front.toList <;> rfl

theorem exists_toList_join (base : String) (h : IsName name) :
    exists front, (join base name).toList = front ++ name.toList ∧
      (front = [] ∨ exists rest, front = rest ++ ['/']) := by
  rcases join_cases base h with ⟨_, hjoin⟩ | ⟨front, _, _, hjoin⟩
  · exact ⟨[], by rw [hjoin, List.nil_append], Or.inl rfl⟩
  · refine ⟨front.toList ++ ['/'], ?_, Or.inr ⟨_, rfl⟩⟩
    rw [hjoin, String.toList_append, String.toList_append]
    rfl

theorem getLast?_join (base : String) (h : IsName name) :
    (join base name).toList.getLast? ≠ some '/' := by
  intro hlast
  have hne : name.toList ≠ [] := fun hnil => h.ne_empty (String.toList_injective hnil)
  rcases exists_toList_join base h with ⟨front, hfront, _⟩
  rw [hfront, List.getLast?_append, List.getLast?_eq_some_getLast hne, Option.some_or] at hlast
  exact h.no_slash (Option.some.inj hlast ▸ List.getLast_mem hne)

theorem join_ne_empty (base : String) (h : IsName name) : join base name ≠ "" := by
  intro hempty
  have hne : name.toList ≠ [] := fun hnil => h.ne_empty (String.toList_injective hnil)
  rcases exists_toList_join base h with ⟨front, hfront, _⟩
  rw [hempty] at hfront
  exact hne (List.append_eq_nil_iff.mp hfront.symm).2

theorem trimTail_reverse (h : IsName name) (tail : List Char) :
    trimTail (name.toList.reverse ++ tail) = name.toList.reverse ++ tail := by
  have hslash : '/' ∉ name.toList.reverse := fun hmem => h.no_slash (List.mem_reverse.mp hmem)
  have hhere : name.toList.reverse ≠ ['.'] := by
    intro hdot
    exact h.ne_here (String.toList_injective (List.reverse_eq_iff.mp hdot))
  have hne : name.toList.reverse ≠ [] := fun hnil =>
    h.ne_empty (String.toList_injective (List.reverse_eq_nil_iff.mp hnil))
  rcases List.exists_cons_of_ne_nil hne with ⟨c, rest, hcons⟩
  rw [hcons] at hslash hhere ⊢
  rw [trimTail]
  · rintro others heq
    cases (List.cons.inj heq).1
    exact hslash List.mem_cons_self
  · rintro others heq
    rcases List.cons.inj heq with ⟨rfl, hbehind⟩
    cases rest with
    | nil => exact hhere rfl
    | cons d rest =>
        have hd : d = '/' := (List.cons.inj hbehind).1
        exact hslash (List.mem_cons_of_mem _ (hd ▸ List.mem_cons_self))

theorem fileName?_join (base : String) (h : IsName name) :
    fileName? (join base name) = some name := by
  rcases exists_toList_join base h with ⟨front, hfront, hends⟩
  have htail : front.reverse = [] ∨ exists rest, front.reverse = '/' :: rest := by
    rcases hends with rfl | ⟨rest, rfl⟩
    · exact Or.inl rfl
    · exact Or.inr ⟨rest.reverse, List.reverse_concat⟩
  have hchars : forall c, c ∈ name.toList.reverse -> (c != '/') = true := fun c hc =>
    bne_iff_ne.mpr fun heq => h.no_slash (heq ▸ List.mem_reverse.mp hc)
  have htake : ((name.toList.reverse ++ front.reverse).takeWhile fun c => c != '/') =
      name.toList.reverse := by
    refine Text.takeWhile_run hchars fun c hc => ?_
    rcases htail with hnil | ⟨rest, hcons⟩
    · rw [hnil] at hc
      cases hc
    · rw [hcons] at hc
      cases hc
      rfl
  have hhere : name.toList.reverse ≠ ['.'] := fun hdot =>
    h.ne_here (String.toList_injective (List.reverse_eq_iff.mp hdot))
  have hup : name.toList.reverse ≠ ['.', '.'] := fun hdots =>
    h.ne_up (String.toList_injective (List.reverse_eq_iff.mp hdots))
  rw [fileName?, hfront, List.reverse_append, trimTail_reverse h, htake]
  simp [h.ne_empty, hhere, hup]

theorem steps_join (base : String) (h : IsName name) :
    FileTree.steps (join base name) = parts base ++ [name] := by
  rw [FileTree.steps, parts_join base h, if_neg]
  simpa using getLast?_join base h

theorem le_utf8ByteSize_join (base : String) (h : IsName name) :
    base.utf8ByteSize + name.utf8ByteSize ≤ (join base name).utf8ByteSize := by
  rcases join_cases base h with ⟨rfl, hjoin⟩ | ⟨front, _, rfl | rfl, hjoin⟩
  · have hempty : "".utf8ByteSize = 0 := rfl
    exact Nat.le_of_eq (by rw [hjoin, hempty, Nat.zero_add])
  · rw [hjoin, String.utf8ByteSize_append, String.utf8ByteSize_append]
    omega
  · exact Nat.le_of_eq (by rw [hjoin, String.utf8ByteSize_append (s := front ++ "/")])

theorem parts_foldl_join (base : String) {names : List String}
    (h : forall name, name ∈ names -> IsName name) :
    parts (names.foldl join base) = parts base ++ names := by
  induction names generalizing base with
  | nil => exact (List.append_nil _).symm
  | cons name rest ih =>
      rw [List.foldl_cons, ih _ fun other hother => h other (List.mem_cons_of_mem _ hother),
        parts_join base (h name List.mem_cons_self), List.append_assoc]
      rfl

theorem isAbsolute_foldl_join (base : String) {names : List String}
    (h : forall name, name ∈ names -> IsName name) :
    isAbsolute (names.foldl join base) = isAbsolute base := by
  induction names generalizing base with
  | nil => rfl
  | cons name rest ih =>
      rw [List.foldl_cons, ih _ fun other hother => h other (List.mem_cons_of_mem _ hother),
        isAbsolute_join base (h name List.mem_cons_self)]

theorem exists_foldl_join (base : String) {names : List String}
    (h : forall name, name ∈ names -> IsName name) (hne : names ≠ []) :
    exists front, names.foldl join base = join front (names.getLast hne) ∧
      IsName (names.getLast hne) := by
  refine ⟨names.dropLast.foldl join base, ?_, h _ (List.getLast_mem hne)⟩
  have hsplit : (names.dropLast ++ [names.getLast hne]).foldl join base =
      join (names.dropLast.foldl join base) (names.getLast hne) := List.foldl_append
  rwa [List.dropLast_concat_getLast hne] at hsplit

theorem steps_foldl_join (base : String) {names : List String}
    (h : forall name, name ∈ names -> IsName name) (hne : names ≠ []) :
    FileTree.steps (names.foldl join base) = parts base ++ names := by
  rcases exists_foldl_join base h hne with ⟨front, hpath, hlast⟩
  rw [<- parts_foldl_join base h, hpath, steps_join front hlast, parts_join front hlast]

theorem fileName?_foldl_join (base : String) {names : List String}
    (h : forall name, name ∈ names -> IsName name) (hne : names ≠ []) :
    fileName? (names.foldl join base) = some (names.getLast hne) := by
  rcases exists_foldl_join base h hne with ⟨front, hpath, hlast⟩
  rw [hpath, fileName?_join front hlast]

end DiskPath
end Whereabouts
