/-
ContentDelivery.Proofs.Url.Reading — what of a text becomes which part of a URL.

`Spells` says part by part what a text must hold for a URL to be read from
it, and `ofText?_eq_some` that reading finds exactly that. The text comes
apart where the authority ends and where the path does; each of these
places is the first one of its kind. So what is put behind a text changes
none of the parts that end in it (`takeWhile_append_of_stop`), and only
goes on with the part in which it ends.

Of paths two facts are needed: segments at the end are resolved last
(`exists_resolve_append`), and a segment with letters in it is no dot
segment, so that it is not taken back by those behind it.
-/
import ContentDelivery.Url.Reading
import Mathlib.Data.List.TakeWhile

namespace ContentDelivery.Url

/-! ## Where a text stops -/

section

variable {α : Type u} {p : α → Bool} {first second : List α}

/-- What stops in the first of two texts does so whatever comes behind it. -/
theorem takeWhile_append_of_stop (stops : ∃ a ∈ first, p a = false) :
    (first ++ second).takeWhile p = first.takeWhile p := by
  obtain ⟨a, among, stop⟩ := stops
  have shorter : (first.takeWhile p).length ≠ first.length := by
    intro same
    have whole := (List.takeWhile_prefix p).eq_of_length same
    cases stop.symm.trans (List.takeWhile_eq_self_iff.mp whole a among)
  rw [List.takeWhile_append, if_neg shorter]

theorem dropWhile_append_of_stop (stops : ∃ a ∈ first, p a = false) :
    (first ++ second).dropWhile p = first.dropWhile p ++ second := by
  obtain ⟨a, among, stop⟩ := stops
  have something : (first.dropWhile p).isEmpty = false := by
    rw [List.isEmpty_eq_false_iff]
    intro nothing
    cases stop.symm.trans (List.dropWhile_eq_nil_iff.mp nothing a among)
  rw [List.dropWhile_append, something]
  rfl

theorem eq_false_of_any_eq_false (no_stop : first.any p = false) : ∀ a ∈ first, p a = false := by
  simpa using no_stop

end

/-! ## The parts of a text -/

/-- What counts of a text: nothing that is passed over, and no slashes in front. -/
def significant (text : List Char) : List Char := (text.filter (!isIgnored ·)).dropWhile isSlash

def authorityPart (cs : List Char) : List Char := cs.takeWhile (!endsAuthority ·)

/-- What follows the authority. -/
def targetPart (cs : List Char) : List Char := cs.dropWhile (!endsAuthority ·)

def endsPath (c : Char) : Bool := c = '?' || c = '#'

def pathPart (target : List Char) : List Char := target.takeWhile (!endsPath ·)

def queryPart? (target : List Char) : Option (List Char) :=
  behind? '?' ((target.takeWhile (· != '#')).dropWhile (· != '?'))

def fragmentPart? (target : List Char) : Option (List Char) :=
  behind? '#' (target.dropWhile (· != '#'))

/-- A URL is spelled by what counts of a text. -/
structure Spells (cs : List Char) (u : Url) : Prop where
  host : Host.ofText? (Authority.ofText (authorityPart cs)).host = some u.host
  port : port? (Authority.ofText (authorityPart cs)).port = some u.port
  username : u.username =
    Percent.encode Percent.keptInUserinfo (Authority.ofText (authorityPart cs)).username
  password : u.password =
    Percent.encode Percent.keptInUserinfo (Authority.ofText (authorityPart cs)).password
  path : u.path = pathOfText (pathPart (targetPart cs))
  query : u.query = (queryPart? (targetPart cs)).map (Percent.encode Percent.keptInQuery)
  fragment : u.fragment =
    (fragmentPart? (targetPart cs)).map (Percent.encode Percent.keptInFragment)

theorem pathPart_eq (target : List Char) :
    pathPart target = (target.takeWhile (· != '#')).takeWhile (· != '?') := by
  rw [List.takeWhile_takeWhile, pathPart]
  congr 1
  funext c
  simp [endsPath, Bool.and_comm, bne]

/-- **A text is read as the URL that it spells.** -/
theorem ofText?_eq_some {text : List Char} {u : Url} :
    ofText? text = some u ↔ Spells (significant text) u := by
  unfold ofText?
  simp only [Option.bind_eq_bind, Option.bind_eq_some_iff]
  constructor
  · rintro ⟨host, host_read, port, port_read, made⟩
    obtain rfl := Option.some.inj made
    exact {
      host := host_read, port := port_read, username := rfl, password := rfl
      path := congrArg pathOfText (pathPart_eq _).symm, query := rfl, fragment := rfl }
  · intro spells
    refine ⟨u.host, spells.host, u.port, spells.port, ?_⟩
    obtain ⟨_, _, username, password, path, query, fragment⟩ := spells
    rw [pathPart_eq] at path
    refine congrArg some ?_
    cases u
    simp only at username password path query fragment
    rw [username, password, path, query, fragment]
    rfl

/-! ## What counts -/

theorem significant_append {cs tail : List Char} (counts : ∀ c ∈ tail, isIgnored c = false) :
    significant (cs ++ tail) =
      if significant cs = [] then tail.dropWhile isSlash else significant cs ++ tail := by
  have kept : tail.filter (!isIgnored ·) = tail := List.filter_eq_self.mpr (by simpa using counts)
  unfold significant
  rw [List.filter_append, kept, List.dropWhile_append]
  simp only [List.isEmpty_iff]

theorem significant_eq_self {cs : List Char} (counts : ∀ c ∈ cs, isIgnored c = false)
    (no_slash : ∀ c ∈ cs, isSlash c = false) : significant cs = cs := by
  have kept : cs.filter (!isIgnored ·) = cs := List.filter_eq_self.mpr (by simpa using counts)
  rw [significant, kept]
  cases cs with
  | nil => rfl
  | cons c cs => rw [List.dropWhile_cons_of_neg (by simp [no_slash c (List.mem_cons_self ..)])]

/-! ## Queries and fragments -/

theorem behind?_dropWhile_eq_none_iff {mark : Char} {cs : List Char} :
    behind? mark (cs.dropWhile (· != mark)) = none ↔ mark ∉ cs := by
  induction cs with
  | nil => simp [behind?]
  | cons c cs ih =>
    by_cases same : c = mark
    · simp [behind?, same]
    · rw [List.dropWhile_cons_of_pos (by simpa using same), ih]
      simp [Ne.symm same]

/-- A URL has a query or a fragment as soon as something ends its path. -/
theorem Spells.ends_path_iff {cs : List Char} {u : Url} (spells : Spells cs u) :
    u.query ≠ none ∨ u.fragment ≠ none ↔ ∃ c ∈ targetPart cs, endsPath c = true := by
  rw [spells.query, spells.fragment, ne_eq, ne_eq, Option.map_eq_none_iff, Option.map_eq_none_iff,
    queryPart?, fragmentPart?, behind?_dropWhile_eq_none_iff, behind?_dropWhile_eq_none_iff,
    not_not, not_not]
  constructor
  · rintro (asks | refers)
    · exact ⟨'?', List.takeWhile_subset _ asks, rfl⟩
    · exact ⟨'#', refers, rfl⟩
  · rintro ⟨c, among, ends⟩
    by_cases refers : '#' ∈ targetPart cs
    · exact .inr refers
    · have whole : (targetPart cs).takeWhile (· != '#') = targetPart cs := by
        refine List.takeWhile_eq_self_iff.mpr fun d there => bne_iff_ne.mpr ?_
        rintro rfl
        exact refers there
      have marks : c = '?' ∨ c = '#' := by simpa [endsPath] using ends
      rcases marks with rfl | rfl
      · exact .inl (whole.symm ▸ among)
      · exact .inr among

/-! ## Paths -/

/-- Segments that end in others: these are resolved last, from wherever the first ones lead. -/
theorem exists_resolve_append (path front : List (List Char)) {tail : List (List Char)}
    (something : tail ≠ []) : ∃ base, resolve path (front ++ tail) = resolve base tail := by
  induction front generalizing path with
  | nil => exact ⟨path, rfl⟩
  | cons segment front ih =>
    have more : front ++ tail ≠ [] := List.append_ne_nil_of_right_ne_nil _ something
    obtain ⟨next, rest, split⟩ := List.exists_cons_of_ne_nil more
    rw [List.cons_append, split, resolve, ← split]
    · split
      · exact ih _
      · split <;> exact ih _
    · simp

theorem resolve_of_not_dots {segment : List Char} (no_dot : isSingleDot segment = false)
    (no_dots : isDoubleDot segment = false) (path : List (List Char)) {rest : List (List Char)}
    (more : rest ≠ []) :
    resolve path (segment :: rest) =
      resolve (path ++ [Percent.encode Percent.keptInPath segment]) rest := by
  rw [resolve, no_dots, no_dot]
  · rfl
  · exact more

/-- A character stays where dots are decoded, unless it can be part of an encoded one. -/
theorem mem_plainDots {cs : List Char} {c : Char} (no_part : c ∉ ['%', '2', 'e', 'E'])
    (among : c ∈ cs) : c ∈ plainDots cs := by
  fun_induction plainDots cs with
  | case1 cs ih => grind
  | case2 cs ih => grind
  | case3 c cs _ _ ih => grind
  | case4 => grind

theorem not_dots_of_mem {segment : List Char} {c : Char}
    (no_part : c ∉ ['%', '2', 'e', 'E', '.']) (among : c ∈ segment) :
    isSingleDot segment = false ∧ isDoubleDot segment = false := by
  have kept : c ∈ plainDots segment := mem_plainDots (by simp_all) among
  have no_dot : c ≠ '.' := by
    rintro rfl
    exact no_part (by decide)
  refine ⟨decide_eq_false ?_, decide_eq_false ?_⟩ <;> intro dots <;> simp [dots, no_dot] at kept

/-- What is put behind a text without being split itself goes to the last piece. -/
theorem exists_splitOn_append (cs : List Char) {tail : List Char} {mark : Char}
    (unmarked : mark ∉ tail) :
    ∃ front last, (cs ++ tail).splitOn mark = front ++ [last ++ tail] := by
  induction cs with
  | nil => exact ⟨[], [], List.splitOn_eq_singleton unmarked⟩
  | cons c cs ih =>
    obtain ⟨front, last, split⟩ := ih
    rw [List.cons_append, List.splitOn_cons_eq_if_modifyHead, split]
    cases c == mark with
    | true => exact ⟨[] :: front, last, rfl⟩
    | false =>
      cases front with
      | nil => exact ⟨[], c :: last, rfl⟩
      | cons first front => exact ⟨(c :: first) :: front, last, rfl⟩

end ContentDelivery.Url
