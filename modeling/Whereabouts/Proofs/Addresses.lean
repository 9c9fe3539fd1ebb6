import Mathlib.Data.List.TakeWhile
import Whereabouts.Proofs.Encoding
import Whereabouts.Proofs.Names
import Whereabouts.Proofs.Paging

/-!
# Continued addresses

An address that is continued behind a slash is continued segment by segment, and dots are
carried out in all of it.  A path that never leads above where it starts leaves alone the
segments before it, and another one leads where the last of them makes no difference.
-/

namespace Whereabouts

variable {σ α β : Type}

/-!
## Levels
-/

namespace Url

/-- The segments that are left where dots are carried out, the latest first. -/
def level (above : List (List Char)) : List (List Char) -> List (List Char)
  | [] => above
  | segment :: rest =>
      if isUp segment then level (climbed above) rest
      else if isHere segment then level above rest
      else level (segment :: above) rest

/-- Dots at the end leave an empty segment. -/
def trail (segments : List (List Char)) : List (List Char) :=
  match segments.getLast? with
  | some last => if isUp last || isHere last then [[]] else []
  | none => []

variable {above base : List (List Char)} {segment : List Char}

theorem trail_cons (segment : List Char) {rest : List (List Char)} (hne : rest ≠ []) :
    trail (segment :: rest) = trail rest := by
  rcases List.exists_cons_of_ne_nil hne with ⟨next, others, rfl⟩
  rw [trail, List.getLast?_cons_cons, trail]

theorem trail_append (front : List (List Char)) {segments : List (List Char)}
    (hne : segments ≠ []) : trail (front ++ segments) = trail segments := by
  induction front with
  | nil => rfl
  | cons segment rest ih =>
      rw [List.cons_append, trail_cons _ (List.append_ne_nil_of_right_ne_nil rest hne), ih]

theorem walk_eq (above segments : List (List Char)) :
    walk above segments = (level above segments).reverse ++ trail segments := by
  induction segments generalizing above with
  | nil => exact (List.append_nil _).symm
  | cons segment rest ih =>
      cases rest with
      | nil =>
          cases hup : isUp segment with
          | true => simp [walk, level, trail, hup]
          | false => cases hhere : isHere segment <;> simp [walk, level, trail, hup, hhere]
      | cons next others =>
          have hne : next :: others ≠ [] := List.cons_ne_nil next others
          rw [walk, level, trail_cons segment hne]
          · split
            · exact ih _
            · split <;> exact ih _
          · exact hne

theorem level_append (above front segments : List (List Char)) :
    level above (front ++ segments) = level (level above front) segments := by
  induction front generalizing above with
  | nil => rfl
  | cons segment rest ih =>
      rw [List.cons_append, level, level]
      split
      · exact ih _
      · split <;> exact ih _

theorem walk_append (above front : List (List Char)) {segments : List (List Char)}
    (hne : segments ≠ []) :
    walk above (front ++ segments) = walk (level above front) segments := by
  rw [walk_eq, walk_eq, level_append, trail_append front hne]

theorem climbed_of_not_drive (hdrive : isDrive segment = false) (above : List (List Char)) :
    climbed (segment :: above) = above := by
  rw [climbed, hdrive, if_neg Bool.false_ne_true]

theorem isDrive_percentEncoded (s : List Char) : isDrive (Text.percentEncoded s) = false := by
  cases hdrive : isDrive (Text.percentEncoded s) with
  | false => rfl
  | true =>
      have hmem : ':' ∈ Text.percentEncoded s ∨ '|' ∈ Text.percentEncoded s := by
        unfold isDrive at hdrive
        split at hdrive
        · rename_i letter mark heq
          rw [heq]
          simp only [Bool.and_eq_true, Bool.or_eq_true, decide_eq_true_eq] at hdrive
          rcases hdrive.2 with rfl | rfl <;> simp
        · cases hdrive
      rcases hmem with hmem | hmem
      · exact absurd (Text.isEncodedChar_of_mem hmem) (by decide)
      · exact absurd (Text.isEncodedChar_of_mem hmem) (by decide)

end Url

/-!
## Paths that stay inside
-/

namespace RemotePath

/-- Whether names never lead above the place that is so many levels up. -/
def staysFrom : Nat -> List (List Char) -> Bool
  | _, [] => true
  | depth, name :: rest =>
      if name = ['.', '.'] then depth != 0 && staysFrom (depth - 1) rest
      else if name = ['.'] then staysFrom depth rest
      else staysFrom (depth + 1) rest

def staysInside (path : String) : Bool :=
  staysFrom 0 (names path)

end RemotePath

namespace Url

open RemotePath Text

def entered (above : List (List Char)) (name : List Char) : List (List Char) :=
  if name = ['.', '.'] then climbed above
  else if name = ['.'] then above
  else percentEncoded name :: above

def Driveless (segments : List (List Char)) : Prop :=
  forall segment, segment ∈ segments -> isDrive segment = false

variable {above base : List (List Char)} {name : List Char}

theorem level_percentEncoded (above : List (List Char)) (name : List Char)
    (rest : List (List Char)) :
    level above (percentEncoded name :: rest) = level (entered above name) rest := by
  rw [level, isUp_percentEncoded, isHere_percentEncoded, entered]
  simp only [decide_eq_true_eq]
  split
  · rfl
  · split <;> rfl

/-- A name leads up from where the path starts, or it leaves alone what is below. -/
theorem entered_cases (hdrives : Driveless above) (name : List Char) :
    (above = [] ∧ name = ['.', '.']) ∨
    exists after, Driveless after ∧ (forall base, entered (above ++ base) name = after ++ base) ∧
      (forall rest, staysFrom above.length (name :: rest) = staysFrom after.length rest) ∧
      after.reverse ++ trail [percentEncoded name] ≠ [] := by
  by_cases hup : name = ['.', '.']
  · subst hup
    cases above with
    | nil => exact Or.inl ⟨rfl, rfl⟩
    | cons segment above =>
        refine Or.inr ⟨above, fun other hother => hdrives other (List.mem_cons_of_mem _ hother),
          fun base => climbed_of_not_drive (hdrives segment List.mem_cons_self) (above ++ base),
          fun rest => rfl, ?_⟩
        simp [trail, isUp_percentEncoded]
  · by_cases hhere : name = ['.']
    · subst hhere
      refine Or.inr ⟨above, hdrives, fun base => rfl, fun rest => rfl, ?_⟩
      simp [trail, isHere_percentEncoded]
    · refine Or.inr ⟨percentEncoded name :: above, ?_, ?_, ?_, by simp⟩
      · intro segment hsegment
        rcases List.mem_cons.mp hsegment with rfl | hsegment
        · exact isDrive_percentEncoded name
        · exact hdrives segment hsegment
      · intro base
        rw [entered, if_neg hup, if_neg hhere, List.cons_append]
      · intro rest
        rw [staysFrom, if_neg hup, if_neg hhere, List.length_cons]

theorem level_of_staysFrom (hdrives : Driveless above) {names : List (List Char)}
    (hne : names ≠ []) (hstays : staysFrom above.length names = true) :
    exists inner, level (above ++ base) (names.map percentEncoded) = inner ++ base ∧
      inner.reverse ++ trail (names.map percentEncoded) ≠ [] := by
  induction names generalizing above with
  | nil => exact absurd rfl hne
  | cons name rest ih =>
      rcases entered_cases hdrives name with ⟨rfl, rfl⟩ | ⟨after, hafter, hentered, hrest, hlast⟩
      · cases hstays
      · rw [hrest] at hstays
        rw [List.map_cons, level_percentEncoded, hentered]
        cases rest with
        | nil => exact ⟨after, rfl, hlast⟩
        | cons next others =>
            have hmap : (next :: others).map percentEncoded ≠ [] := List.cons_ne_nil _ _
            rw [trail_cons _ hmap]
            exact ih hafter (List.cons_ne_nil _ _) hstays

theorem level_of_not_staysFrom (hdrives : Driveless above) {one other : List Char}
    (hone : isDrive one = false) (hother : isDrive other = false) {names : List (List Char)}
    (hstays : staysFrom above.length names = false) :
    level (above ++ one :: base) (names.map percentEncoded) =
      level (above ++ other :: base) (names.map percentEncoded) := by
  induction names generalizing above with
  | nil => cases hstays
  | cons name rest ih =>
      rw [List.map_cons, level_percentEncoded, level_percentEncoded]
      rcases entered_cases hdrives name with ⟨rfl, rfl⟩ | ⟨after, hafter, hentered, hrest, _⟩
      · -- The name that leads out takes the segment away in which the two differ.
        show level (climbed (one :: base)) _ = level (climbed (other :: base)) _
        rw [climbed_of_not_drive hone, climbed_of_not_drive hother]
      · rw [hrest] at hstays
        rw [hentered, hentered]
        exact ih hafter hstays

end Url

/-!
## Longer addresses
-/

namespace Url

/-- The characters of a path that an address takes as they are. -/
def isPathChar (c : Char) : Bool :=
  c = '/' || Text.isEncodedChar c

/-- The text of an address without what does not count: controls and blanks at its
ends, tabulators and ends of lines. -/
def kept (s : List Char) : List Char :=
  ((s.dropWhile isEdge).reverse.dropWhile isEdge).reverse.filter fun c =>
    c != '\t' && c != '\n' && c != '\r'
where
  isEdge (c : Char) : Bool := c.toNat < 33

/-- What follows the host, when the slashes after the scheme are left out. -/
def afterHost (rest : List Char) : List Char :=
  rest.drop (rest.takeWhile fun c => !(c = '/' || c = '\\' || c = '?')).length

/-- The segments of a path that follows a host, with their dots. -/
def writtenSegments (address : List Char) : List (List Char) :=
  let path := (address.takeWhile fun c => c != '?').map fun c => if c = '\\' then '/' else c
  (Text.pieces '/' (path.drop 1)).map (encoded .path)

/-- Whether the scheme of that name is the secure one of the web or the other one. -/
def secure? (name : List Char) : Option Bool :=
  if name.map Char.toLower = ['h', 't', 't', 'p'] then some false
  else if name.map Char.toLower = ['h', 't', 't', 'p', 's'] then some true
  else none

theorem parse?_eq (text : String) :
    parse? text =
      (scheme? ((kept text.toList).takeWhile fun c => c != '#')).bind fun (secure, rest) =>
        (endpoint? (rest.takeWhile fun c => !(c = '/' || c = '\\' || c = '?'))).bind
          fun (host, service) => some {
            secure, host
            service := service.filter fun n => n != usualService secure
            segments := walk [] (writtenSegments (afterHost rest))
            query := (after? '?' (afterHost rest)).map (encoded .query)
            fragment := (after? '#' (kept text.toList)).map (encoded .fragment) } :=
  rfl

section Extension

variable {front more : List Char} {p : Char -> Bool}

theorem bne_of_not_mem {mark : Char} {s : List Char} (h : mark ∉ s) :
    forall c, c ∈ s -> (c != mark) = true := by
  intro c hc
  exact bne_iff_ne.mpr fun heq => h (heq ▸ hc)

theorem takeWhile_eq_self_of_not_mem {mark : Char} {s : List Char} (h : mark ∉ s) :
    (s.takeWhile fun c => c != mark) = s :=
  List.takeWhile_eq_self_iff.mpr (bne_of_not_mem h)

theorem takeWhile_append_slash (hslash : p '/' = false) (front more : List Char) :
    (front ++ '/' :: more).takeWhile p = front.takeWhile p := by
  induction front with
  | nil => simp [hslash]
  | cons c front ih => simp only [List.cons_append, List.takeWhile_cons, ih]

theorem dropWhile_append_slash (hslash : p '/' = false) (front more : List Char) :
    (front ++ '/' :: more).dropWhile p = front.dropWhile p ++ '/' :: more := by
  induction front with
  | nil => simp [hslash]
  | cons c front ih =>
      simp only [List.cons_append, List.dropWhile_cons, ih]
      split <;> rfl

theorem forall_of_isPathChar (q : Char -> Prop) (hslash : q '/')
    (hq : forall n, n < 128 -> Text.isEncodedChar (Char.ofNat n) = true -> q (Char.ofNat n))
    (hmore : forall c, c ∈ more -> isPathChar c = true) : forall c, c ∈ '/' :: more -> q c := by
  intro c hc
  rcases List.mem_cons.mp hc with rfl | hc
  · exact hslash
  · have hpath := hmore c hc
    rw [isPathChar, Bool.or_eq_true, decide_eq_true_eq] at hpath
    rcases hpath with rfl | hpath
    · exact hslash
    · exact Text.forall_encodedChar hq c hpath

theorem reverse_dropWhile_reverse {s : List Char} (h : forall c, c ∈ s -> p c = false)
    (hne : s ≠ []) (front : List Char) :
    ((front ++ s).reverse.dropWhile p).reverse = front ++ s := by
  have hlast : s.reverse ≠ [] := fun h => hne (List.reverse_eq_nil_iff.mp h)
  rcases List.exists_cons_of_ne_nil hlast with ⟨c, others, hc⟩
  have hmem : c ∈ s := List.mem_reverse.mp (hc ▸ List.mem_cons_self)
  rw [List.reverse_append, hc, List.cons_append, List.dropWhile_cons, h c hmem,
    if_neg Bool.false_ne_true, ← List.cons_append, ← hc, ← List.reverse_append,
    List.reverse_reverse]

theorem kept_append_slash (front : List Char) : exists start, forall more,
    (forall c, c ∈ more -> isPathChar c = true) ->
      kept (front ++ '/' :: more) = start ++ '/' :: more := by
  refine ⟨(front.dropWhile kept.isEdge).filter fun c =>
    c != '\t' && c != '\n' && c != '\r', fun more hmore => ?_⟩
  have hedge := forall_of_isPathChar (fun c => kept.isEdge c = false) (by decide)
    (by decide +kernel) hmore
  have hline := forall_of_isPathChar
    (fun c => (c != '\t' && c != '\n' && c != '\r') = true) (by decide) (by decide +kernel) hmore
  unfold kept
  rw [dropWhile_append_slash (by decide), reverse_dropWhile_reverse hedge (List.cons_ne_nil _ _),
    List.filter_append, List.filter_eq_self.mpr hline]

theorem scheme?_colon {name : List Char} (hname : ':' ∉ name) (rest : List Char) :
    scheme? (name ++ ':' :: rest) = (secure? name).map fun secure =>
      (secure, Text.dropStart (fun c => c = '/' || c = '\\') rest) := by
  have htake : (name ++ ':' :: rest).takeWhile (fun c => c != ':') = name :=
    Text.takeWhile_run (bne_of_not_mem hname) fun c hc => by cases hc; rfl
  unfold scheme? secure?
  dsimp only
  rw [htake, List.drop_left]
  show (if _ then _ else if _ then _ else none) = _
  split
  · rfl
  · split <;> rfl

theorem scheme?_of_not_mem (h : ':' ∉ front) : scheme? front = none := by
  unfold scheme?
  dsimp only
  rw [takeWhile_eq_self_of_not_mem h, List.drop_length]

theorem scheme?_append_slash {secure : Bool} {after : List Char}
    (h : scheme? (front ++ ['/']) = some (secure, after)) (hne : after ≠ []) :
    exists start, after = start ++ ['/'] ∧ forall more,
      scheme? (front ++ '/' :: more) = some (secure, start ++ '/' :: more) := by
  by_cases hcolon : ':' ∈ front
  · rcases List.eq_append_cons_of_mem hcolon with ⟨name, rest, rfl, hname⟩
    have hscheme : forall more, scheme? (name ++ ':' :: rest ++ '/' :: more) = _ := fun more =>
      (congrArg scheme? (List.append_assoc name (':' :: rest) ('/' :: more))).trans
        (scheme?_colon hname (rest ++ '/' :: more))
    rw [hscheme] at h
    rcases Option.map_eq_some_iff.mp h with ⟨_, hsecure, heq⟩
    cases heq
    unfold Text.dropStart at hne hscheme ⊢
    simp only [List.dropWhile_append] at hne hscheme ⊢
    split at hne
    · exact absurd rfl hne
    · rename_i hrest
      simp only [hrest, hsecure] at hscheme ⊢
      exact ⟨_, rfl, hscheme⟩
  · -- A scheme ends at a colon, and there is none.
    have hnone : scheme? (front ++ ['/']) = none :=
      scheme?_of_not_mem fun hmem => hcolon (by simpa using hmem)
    rw [hnone] at h
    cases h

theorem encoded_of_isPathChar {s : List Char} (h : forall c, c ∈ s -> isPathChar c = true) :
    encoded .path s = s := by
  have hkept : forall c, c ∈ '/' :: s ->
      (c.toNat < 33 || 126 < c.toNat || Part.path.excludes c) = false :=
    forall_of_isPathChar _ (by decide) (by decide +kernel) h
  unfold encoded
  have hsingle : forall c, c ∈ s -> (if c.toNat < 33 || 126 < c.toNat || Part.path.excludes c then
      (String.utf8EncodeChar c).flatMap Text.percentByte else [c]) = [c] := by
    intro c hc
    rw [hkept c (List.mem_cons_of_mem _ hc), if_neg Bool.false_ne_true]
  rw [List.flatMap_def, List.map_congr_left hsingle, ← List.flatMap_def, List.flatMap_singleton']

theorem writtenSegments_append_slash (hquery : '?' ∉ front) :
    exists start, forall more, (forall c, c ∈ more -> isPathChar c = true) ->
      writtenSegments (front ++ '/' :: more) = start ++ Text.pieces '/' more := by
  let plain (c : Char) : Char := if c = '\\' then '/' else c
  refine ⟨match front with
    | [] => []
    | _ :: rest => (Text.pieces '/' (rest.map plain)).map (encoded .path), ?_⟩
  intro more hmore
  have hmarks : forall c, c ∈ '/' :: more -> (c != '?') = true ∧ plain c = c :=
    forall_of_isPathChar _ (by decide) (by decide +kernel) hmore
  have htake : (front ++ '/' :: more).takeWhile (fun c => c != '?') = front ++ '/' :: more := by
    rw [List.takeWhile_eq_self_iff]
    intro c hc
    rcases List.mem_append.mp hc with hc | hc
    · exact bne_of_not_mem hquery c hc
    · exact (hmarks c hc).1
  have hplain : ('/' :: more).map plain = '/' :: more :=
    (List.map_congr_left fun c hc => (hmarks c hc).2).trans (List.map_id _)
  have hpieces : (Text.pieces '/' more).map (encoded .path) = Text.pieces '/' more := by
    refine (List.map_congr_left fun piece hpiece => ?_).trans (List.map_id _)
    exact encoded_of_isPathChar fun c hc => hmore c (Text.mem_of_mem_pieces hpiece hc)
  show (Text.pieces '/'
    ((((front ++ '/' :: more).takeWhile fun c => c != '?').map plain).drop 1)).map
      (encoded .path) = _
  rw [htake, List.map_append, hplain]
  cases front with
  | nil => exact hpieces
  | cons c rest =>
      show (Text.pieces '/' (rest.map plain ++ '/' :: more)).map (encoded .path) = _
      rw [Text.pieces_append_sep, List.map_append, hpieces]

theorem afterHost_append_slash (front : List Char) :
    exists start, forall more, afterHost (front ++ '/' :: more) = start ++ '/' :: more := by
  refine ⟨front.drop (front.takeWhile fun c => !(c = '/' || c = '\\' || c = '?')).length,
    fun more => ?_⟩
  have hlength : (front.takeWhile fun c => !(c = '/' || c = '\\' || c = '?')).length ≤
      front.length := (List.takeWhile_prefix _).length_le
  rw [afterHost, takeWhile_append_slash (by decide), List.drop_append_of_le_length hlength]

end Extension

theorem after?_eq_none {mark : Char} {s : List Char} : after? mark s = none <-> mark ∉ s := by
  have hdrop : (s.dropWhile fun c => c != mark) = [] <-> mark ∉ s := by
    rw [List.dropWhile_eq_nil_iff]
    constructor
    · intro h hmem
      simpa using h mark hmem
    · exact bne_of_not_mem
  rw [<- hdrop, after?]
  split
  · rename_i heq
    rw [heq]
    exact ⟨fun h => (nomatch h), fun h => (nomatch h)⟩
  · rename_i heq
    exact ⟨fun _ => heq, fun _ => rfl⟩

theorem not_mem_append_slash {mark : Char} {start more : List Char}
    (hmark : isPathChar mark = false) (hnone : after? mark (start ++ ['/']) = none)
    (hmore : forall c, c ∈ more -> isPathChar c = true) : mark ∉ start ++ '/' :: more := by
  intro hmem
  have hstart := after?_eq_none.mp hnone
  rcases List.mem_append.mp hmem with hmem | hmem
  · exact hstart (List.mem_append_left _ hmem)
  · rcases List.mem_cons.mp hmem with rfl | hmem
    · cases hmark
    · rw [hmore mark hmem] at hmark
      cases hmark

/-- The root of addresses: where a text leads that is continued behind a slash. -/
structure IsRoot (base : String) (root : Url) : Prop where
  parsed : parse? (base ++ "/") = some root
  query : root.query = none
  fragment : root.fragment = none

theorem IsRoot.parse?_append {base : String} {root : Url} (hroot : IsRoot base root) :
    exists front, root.segments = walk [] (front ++ [[]]) ∧
      forall more, (forall c, c ∈ more -> isPathChar c = true) ->
        parse? (base ++ "/" ++ String.ofList more) =
          some { root with segments := walk [] (front ++ Text.pieces '/' more) } := by
  have hnil : forall c, c ∈ ([] : List Char) -> isPathChar c = true := fun _ h => (nomatch h)
  rcases hroot with ⟨hparsed, hquery, hfragment⟩
  rcases kept_append_slash base.toList with ⟨start, hkept⟩
  have htext : forall more, (base ++ "/" ++ String.ofList more).toList =
      base.toList ++ '/' :: more := by
    intro more
    rw [String.toList_append, String.toList_append, List.append_assoc, <- String.toList_append]
    simp
  have hempty : base ++ "/" = base ++ "/" ++ String.ofList [] := String.append_empty.symm
  rw [hempty, parse?_eq, htext, hkept [] hnil] at hparsed
  rcases Option.bind_eq_some_iff.mp hparsed with ⟨⟨secure, rest⟩, hscheme, hrest⟩
  rcases Option.bind_eq_some_iff.mp hrest with ⟨⟨host, service⟩, hend, heq⟩
  cases heq
  rw [Option.map_eq_none_iff] at hquery hfragment
  have hmark : forall more, (forall c, c ∈ more -> isPathChar c = true) ->
      '#' ∉ start ++ '/' :: more := fun _ => not_mem_append_slash rfl hfragment
  rw [takeWhile_eq_self_of_not_mem (hmark [] hnil)] at hscheme
  have hne : rest ≠ [] := by
    rintro rfl
    cases hend
  rcases scheme?_append_slash hscheme hne with ⟨authority, rfl, hcontinued⟩
  rcases afterHost_append_slash authority with ⟨behind, hbehind⟩
  rw [hbehind] at hquery
  have hquestion : forall more, (forall c, c ∈ more -> isPathChar c = true) ->
      '?' ∉ behind ++ '/' :: more := fun _ => not_mem_append_slash rfl hquery
  have hbefore : '?' ∉ behind := fun hmem => hquestion [] hnil (List.mem_append_left _ hmem)
  rcases writtenSegments_append_slash hbefore with ⟨front, hfront⟩
  refine ⟨front, ?_, fun more hmore => ?_⟩
  · rw [hbehind, hfront [] hnil]
    rfl
  · rw [takeWhile_append_slash (by decide)] at hend
    rw [parse?_eq, htext, hkept more hmore, takeWhile_eq_self_of_not_mem (hmark more hmore),
      hcontinued, Option.bind_some]
    dsimp only
    rw [takeWhile_append_slash (by decide), hend, Option.bind_some, hbehind, hfront more hmore]
    rw [hfragment, hbehind, hquery, after?_eq_none.mpr (hquestion more hmore),
      after?_eq_none.mpr (hmark more hmore)]

end Url
end Whereabouts
