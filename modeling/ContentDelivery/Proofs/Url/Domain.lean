/-
ContentDelivery.Proofs.Url.Domain — hosts that end in a given domain.

A zone (`Host.IsZone`) is the end of a domain, such as "example.net". A
text that ends in a dot and a zone is the name of a domain in that zone,
whatever precedes the dot, if it is a host at all
(`Host.exists_domain_of_zone`): the dot belongs to no percent-encoded
byte, the labels of the zone are read apart from those in front of it
(`Host.exists_join_of_zone`), the last label is not a number, and the
text does not end in a bracket. An authority can put only credentials in
front of its host and only digits behind it (`Authority.ofText_append`).
-/
import ContentDelivery.Proofs.Url.Query
import ContentDelivery.Proofs.Url.Spelling
import Mathlib.Data.List.TakeWhile

namespace ContentDelivery.Url

/-! ## Percent encoding -/

namespace Percent

/-- A percent sign without two digits after it is itself. -/
theorem decode_percent_of_not_digits {hi lo : Char}
    (not_digits : Text.Hex.digit? hi = none ∨ Text.Hex.digit? lo = none) (rest : List Char) :
    decode ('%' :: hi :: lo :: rest) = String.utf8EncodeChar '%' ++ decode (hi :: lo :: rest) := by
  rw [decode]
  rcases not_digits with no_high | no_low
  · rw [no_high]
  · rw [no_low]
    cases Text.Hex.digit? hi <;> rfl

/-- What stands before a dot and what follows it are decoded apart. -/
theorem decode_append_dot (cs tail : List Char) :
    decode (cs ++ '.' :: tail) = decode cs ++ decode ('.' :: tail) := by
  fun_induction decode cs with
  | case1 => rfl
  | case2 hi lo rest h l low high ih =>
    simp only [List.cons_append, decode, high, low, ih]
  | case3 hi lo rest no_digits ih =>
    have not_digits : Text.Hex.digit? hi = none ∨ Text.Hex.digit? lo = none := by
      cases high : Text.Hex.digit? hi with
      | none => exact .inl rfl
      | some h =>
        cases low : Text.Hex.digit? lo with
        | none => exact .inr rfl
        | some l => exact (no_digits h l high low).elim
    have decoded := decode_percent_of_not_digits not_digits (rest ++ '.' :: tail)
    rw [List.append_assoc, ← ih]
    exact decoded
  | case4 c rest no_escape ih =>
    rw [List.append_assoc, ← ih]
    by_cases percent : c = '%'
    · subst percent
      -- At most one character follows the percent sign, so that the dot is among the next two.
      cases rest with
      | nil =>
        cases tail with
        | nil => rfl
        | cons next tail => exact decode_percent_of_not_digits (.inl (by decide)) tail
      | cons hi rest =>
        cases rest with
        | nil => exact decode_percent_of_not_digits (.inr (by decide)) tail
        | cons lo rest => exact (no_escape hi lo rest rfl rfl).elim
    · exact decode_cons_of_ne percent _

end Percent

/-! ## Labels -/

namespace Ipv4

theorem labels_append_dot (first second : List Char) :
    labels (first ++ '.' :: second) = first.splitOn '.' ++ labels second := by
  unfold labels
  dsimp only
  rw [List.splitOn_append_cons_self, List.getLast?_append_of_ne_nil _ (List.splitOn_ne_nil _ _)]
  split
  · exact List.dropLast_append_of_ne_nil (List.splitOn_ne_nil _ _)
  · rfl

/-- Only the last label tells whether a host is a number. -/
theorem endsInNumber_append_dot (first : List Char) {second : List Char}
    (labelled : labels second ≠ []) :
    endsInNumber (first ++ '.' :: second) = endsInNumber second := by
  unfold endsInNumber
  rw [labels_append_dot, List.getLast?_append_of_ne_nil _ labelled]

end Ipv4

/-! ## Hosts -/

namespace Host

/-- A text that is the end of a domain wherever it stands behind a dot. -/
structure IsZone (zone : List Char) : Prop where
  ascii : ∀ c ∈ '.' :: zone, c.toNat < 128
  unescaped : Percent.decode ('.' :: zone) = ('.' :: zone).flatMap String.utf8EncodeChar
  folded : Label.foldAll? (('.' :: zone).map Char.toNat) = some (('.' :: zone).map Char.toNat)
  spelled : (((zone.map Char.toNat).splitOn '.'.toNat).mapM Label.ofCodePoints?).map join = some zone
  labelled : Ipv4.labels zone ≠ []
  no_number : Ipv4.endsInNumber zone = false
  no_bracket : zone.getLast? ≠ some ']'

theorem IsZone.nonempty {zone : List Char} (is_zone : IsZone zone) : zone ≠ [] := by
  rintro rfl
  exact is_zone.labelled rfl

theorem join_append {first second : List Label} (some_first : first ≠ [])
    (some_second : second ≠ []) : join (first ++ second) = join first ++ '.' :: join second := by
  have ascii_second : second.map (·.ascii) ≠ [] := List.map_eq_nil_iff.not.mpr some_second
  unfold join
  induction first with
  | nil => exact (some_first rfl).elim
  | cons label others ih =>
    cases others with
    | nil => simp [List.intercalate_cons_of_ne_nil ascii_second]
    | cons next others =>
      have rest := ih (List.cons_ne_nil next others)
      simp only [List.cons_append, List.map_cons, List.intercalate_cons_cons] at rest ⊢
      rw [rest]
      simp

/-- The labels of a name in a zone end in those of the zone. -/
theorem exists_join_of_zone {front zone : List Char} {labels : List Label} (is_zone : IsZone zone)
    (read : labels? (Percent.decode (front ++ '.' :: zone)) = some labels) :
    ∃ name, join labels = name ++ '.' :: zone := by
  obtain ⟨text, decoded, read⟩ := Option.bind_eq_some_iff.mp read
  obtain ⟨codePoints, folded, read⟩ := Option.bind_eq_some_iff.mp read
  rw [Percent.decode_append_dot, is_zone.unescaped] at decoded
  obtain ⟨start, text_eq⟩ := exists_eq_append_of_text? is_zone.ascii decoded
  rw [text_eq, List.map_append] at folded
  obtain ⟨first, second, -, tail_folded, rfl⟩ := Label.exists_of_foldAll?_append folded
  obtain rfl := Option.some.inj (is_zone.folded.symm.trans tail_folded)
  have ascii : ∀ n ∈ ('.' :: zone).map Char.toNat, n < 128 :=
    List.forall_mem_map.mpr is_zone.ascii
  rw [Label.compose_append_ascii first ascii, List.map_cons, List.splitOn_append_cons_self] at read
  obtain ⟨before, behind, read_before, read_behind, rfl⟩ := exists_of_mapM_append read
  have spelled := is_zone.spelled
  rw [read_behind] at spelled
  refine ⟨join before, ?_⟩
  rw [join_append (ne_nil_of_mapM read_before (List.splitOn_ne_nil _ _))
    (ne_nil_of_mapM read_behind (List.splitOn_ne_nil _ _)), Option.some.inj spelled]

/-- A domain is made of labels. -/
theorem exists_labels_of_domain? {bytes : List UInt8} {name : List Char}
    (read : domain? bytes = some name) :
    ∃ labels, labels? bytes = some labels ∧ join labels = name := by
  obtain ⟨labels, read_labels, read⟩ := Option.bind_eq_some_iff.mp read
  split at read
  · cases read
  · exact ⟨labels, read_labels, Option.some.inj read⟩

/-- **A text that ends in a zone is a domain in it**, if it is a host at all. -/
theorem exists_domain_of_zone {front zone : List Char} {host : Host} (is_zone : IsZone zone)
    (read : ofText? (front ++ '.' :: zone) = some host) :
    ∃ name, host = .domain (name ++ '.' :: zone) := by
  unfold ofText? at read
  split at read
  · next rest bracketed =>
    have last : ('[' :: rest).getLast? = zone.getLast? := by
      rw [← bracketed, List.getLast?_append_of_ne_nil _ (List.cons_ne_nil _ _),
        List.getLast?_cons_of_ne_nil is_zone.nonempty]
    split at read
    · next closed =>
      have rest_nonempty : rest ≠ [] := by
        rintro rfl
        cases closed
      rw [List.getLast?_cons_of_ne_nil rest_nonempty] at last
      exact absurd (last.symm.trans closed) is_zone.no_bracket
    · cases read
  · obtain ⟨name, spelled, read⟩ := Option.bind_eq_some_iff.mp read
    obtain ⟨labels, read_labels, rfl⟩ := exists_labels_of_domain? spelled
    obtain ⟨start, name_eq⟩ := exists_join_of_zone is_zone read_labels
    have no_number : Ipv4.endsInNumber (join labels) = false := by
      rw [name_eq, Ipv4.endsInNumber_append_dot _ is_zone.labelled, is_zone.no_number]
    rw [no_number] at read
    exact ⟨start, (Option.some.inj read).symm.trans (congrArg domain name_eq)⟩

end Host

/-! ## Authorities -/

/-- Credentials end at the last at sign, so that none of what follows it is lost. -/
theorem splitUserinfo_append (cs : List Char) {tail : List Char} (no_at : '@' ∉ tail) :
    ∃ front, (splitUserinfo (cs ++ tail)).2 = front ++ tail := by
  unfold splitUserinfo
  split
  · next has_at =>
    have passed : ∀ c ∈ tail.reverse, (c != '@') = true := by
      intro c among
      rw [bne_iff_ne]
      rintro rfl
      exact no_at (List.mem_reverse.mp among)
    refine ⟨(cs.reverse.takeWhile (· != '@')).reverse, ?_⟩
    dsimp only
    rw [List.reverse_append, List.takeWhile_append_of_pos passed, List.reverse_append,
      List.reverse_reverse]
  · exact ⟨cs, rfl⟩

theorem splitPort_of_no_colon (inBrackets : Bool) {cs : List Char} (no_colon : ':' ∉ cs) :
    splitPort inBrackets cs = (cs, []) := by
  induction cs generalizing inBrackets with
  | nil => rfl
  | cons c cs ih =>
    obtain ⟨other, no_colon⟩ := not_or.mp (List.mem_cons.not.mp no_colon)
    rw [splitPort, if_neg fun colon => other colon.1.symm, ih _ no_colon]

/-- What goes on without a colon belongs to the host, or to the port if that has begun. -/
theorem splitPort_append (inBrackets : Bool) (cs : List Char) {tail : List Char}
    (no_colon : ':' ∉ tail) :
    splitPort inBrackets (cs ++ tail) = (cs ++ tail, []) ∨
      ∃ host port, splitPort inBrackets (cs ++ tail) = (host, port ++ tail) := by
  induction cs generalizing inBrackets with
  | nil => exact .inl (splitPort_of_no_colon inBrackets no_colon)
  | cons c cs ih =>
    rw [List.cons_append, splitPort]
    split
    · exact .inr ⟨[], cs, rfl⟩
    · rcases ih (c = '[' || (inBrackets && c != ']')) with whole | ⟨host, port, found⟩
      · exact .inl (by rw [whole])
      · exact .inr ⟨c :: host, port, by rw [found]⟩

/-- A port holds digits only. -/
theorem isDigit_of_port? {cs : List Char} {port : Option Nat} (read : port? cs = some port) :
    ∀ c ∈ cs, c.isDigit = true := by
  unfold port? at read
  split at read
  · next digits => exact List.all_eq_true.mp digits
  · cases read

namespace Authority

/-- The end of an authority is the end of its host or of its port. -/
theorem ofText_append (cs : List Char) {tail : List Char} (no_at : '@' ∉ tail)
    (no_colon : ':' ∉ tail) :
    ∃ front, (ofText (cs ++ tail)).host = front ++ tail ∨
      (ofText (cs ++ tail)).port = front ++ tail := by
  obtain ⟨address, address_eq⟩ := splitUserinfo_append cs no_at
  have parts : ((ofText (cs ++ tail)).host, (ofText (cs ++ tail)).port) =
      splitPort false (address ++ tail) := by
    rw [← address_eq]
    rfl
  rcases splitPort_append false address no_colon with whole | ⟨host, port, found⟩
  · exact ⟨address, .inl (Prod.mk.inj (parts.trans whole)).1⟩
  · exact ⟨port, .inr (Prod.mk.inj (parts.trans found)).2⟩

/-- An authority without marks is all host. -/
theorem ofText_eq_host {cs : List Char} (no_at : '@' ∉ cs) (no_colon : ':' ∉ cs) :
    ofText cs = { username := [], password := [], host := cs, port := [] } := by
  have no_userinfo : splitUserinfo cs = ([], cs) := if_neg (by simpa using no_at)
  have no_port : splitPort false cs = (cs, []) := splitPort_of_no_colon false no_colon
  simp only [ofText, no_userinfo, no_port]
  rfl

end Authority

end ContentDelivery.Url
