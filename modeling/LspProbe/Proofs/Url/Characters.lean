import LspProbe.Proofs.Characters
import LspProbe.Proofs.Steps
import LspProbe.Proofs.Utf8
import LspProbe.Url.Address

/-!
# Characters of URLs

Every part of a URL is written in printable ASCII, whatever text it was read from: controls and
everything beyond ASCII are encoded, and names travel in Punycode. Resolving a text against a URL
keeps this.
-/

namespace LspProbe.Url

open Text

theorem isGraphic_of_not_encodes {p : Part} {c : Char} (h : p.encodes c = false) :
    IsGraphic c := by
  simp only [Part.encodes, isControl, Bool.or_eq_false_iff, decide_eq_false_iff_not] at h
  exact ⟨by omega, by omega⟩

/-- What a part encodes does not occur in what it has encoded. -/
theorem only_encode (p : Part) (cs : List Char) :
    Only (fun c => p.encodes c = false) (p.encode cs) := by
  have hpercent : p.encodes '%' = false := by cases p <;> decide
  have hhex : ∀ n < 16, p.encodes (hexDigit n) = false := by cases p <;> decide
  rw [Part.encode, only_ofList]
  intro d hd
  obtain ⟨c, _, hd⟩ := List.mem_flatMap.mp hd
  rw [Part.encodeChar] at hd
  split at hd
  · obtain ⟨b, _, hb⟩ := List.mem_flatMap.mp hd
    have hlt : b.toNat < 256 := b.toNat_lt
    simp only [encodeByte, List.mem_cons, List.not_mem_nil, or_false] at hb
    rcases hb with rfl | rfl | rfl
    · exact hpercent
    · exact hhex _ (by omega)
    · exact hhex _ (by omega)
  · next hc =>
    rw [List.mem_singleton.mp hd]
    simpa using hc

theorem only_isGraphic_encode (p : Part) (cs : List Char) : Only IsGraphic (p.encode cs) :=
  (only_encode p cs).mono fun _ => isGraphic_of_not_encodes

private theorem toNat_lt_of_isAlphanum {c : Char} (h : c.isAlphanum = true) : c.toNat < 0x80 := by
  have hval : c.toNat = c.val.toNat := rfl
  have hupper : 'Z'.val.toNat = 90 := rfl
  have hlower : 'z'.val.toNat = 122 := rfl
  have hdigit : '9'.val.toNat = 57 := rfl
  change ((decide (c.val ≥ 'A'.val ∧ c.val ≤ 'Z'.val) ||
    decide (c.val ≥ 'a'.val) && decide (c.val ≤ 'z'.val)) ||
    decide (c.val ≥ '0'.val) && decide (c.val ≤ '9'.val)) = true at h
  simp only [Bool.or_eq_true, Bool.and_eq_true, decide_eq_true_eq, UInt32.le_iff_toNat_le,
    ge_iff_le] at h
  omega

/-- What holds of all characters of ASCII, shown one by one. -/
private theorem forall_ascii {P : Char → Prop} (h : ∀ n < 0x80, P (Char.ofNat n)) {c : Char}
    (hc : c.toNat < 0x80) : P c := by
  have hP := h c.toNat hc
  rwa [Char.ofNat_toNat] at hP

private theorem isGraphic_of_isAlpha {c : Char} (h : c.isAlpha = true) : IsGraphic c := by
  have hlt : c.toNat < 0x80 := toNat_lt_of_isAlphanum (by simp [Char.isAlphanum, h])
  have hall : ∀ n < 0x80, (Char.ofNat n).isAlpha = true → IsGraphic (Char.ofNat n) := by decide
  exact forall_ascii (P := fun c => c.isAlpha = true → IsGraphic c) hall hlt h

private theorem isGraphic_toLower_of_isSchemeChar {c : Char} (h : isSchemeChar c = true) :
    IsGraphic c.toLower := by
  have hlt : c.toNat < 0x80 := by
    simp only [isSchemeChar, Bool.or_eq_true, decide_eq_true_eq] at h
    rcases h with ((h | rfl) | rfl) | rfl
    · exact toNat_lt_of_isAlphanum h
    · decide
    · decide
    · decide
  have hall : ∀ n < 0x80, isSchemeChar (Char.ofNat n) = true →
      IsGraphic (Char.ofNat n).toLower := by decide
  exact forall_ascii (P := fun c => isSchemeChar c = true → IsGraphic c.toLower) hall hlt h

theorem only_isGraphic_scheme? {cs rest : List Char} {scheme : String}
    (h : scheme? cs = some (scheme, rest)) : Only IsGraphic scheme := by
  unfold scheme? at h
  split at h
  · cases h
  · split at h
    · split at h
      · obtain ⟨rfl, _⟩ := Prod.mk.inj (Option.some.inj h)
        rw [only_ofList]
        intro d hd
        obtain ⟨c, hc, rfl⟩ := List.mem_map.mp hd
        have hscheme := List.all_eq_true.mp List.all_takeWhile c hc
        exact isGraphic_toLower_of_isSchemeChar hscheme
      · cases h
    · cases h

namespace Name

namespace Punycode

private theorem isGraphic_digitChar : ∀ d < 36, IsGraphic (digitChar d) := by decide

private theorem isGraphic_digits (bias place n : Nat) : ∀ c ∈ digits bias place n, IsGraphic c := by
  have hbounds (place : Nat) := threshold_bounds bias place
  fun_induction digits bias place n with
  | case1 place n t h =>
    intro c hc
    rw [List.mem_singleton.mp hc]
    exact isGraphic_digitChar n (by have := hbounds place; omega)
  | case2 place n t h ih =>
    intro c hc
    have ht := hbounds place
    rcases List.mem_cons.mp hc with rfl | hc
    · have hmod : (n - t) % (36 - t) < 36 - t := Nat.mod_lt _ (by omega)
      exact isGraphic_digitChar _ (by omega)
    · exact ih c hc

private theorem isGraphic_pass {basic code : Nat} {w : Writing} (h : ∀ c ∈ w.text, IsGraphic c)
    (c : Char) : ∀ d ∈ (w.pass basic code c).text, IsGraphic d := by
  unfold Writing.pass
  split
  · exact h
  · split
    · intro d hd
      rcases List.mem_append.mp hd with hd | hd
      · exact isGraphic_digits _ _ _ d (List.mem_reverse.mp hd)
      · exact h d hd
    · exact h

private theorem isGraphic_foldl_pass {basic code : Nat} (label : List Char) {w : Writing}
    (h : ∀ c ∈ w.text, IsGraphic c) :
    ∀ d ∈ (label.foldl (Writing.pass basic code) w).text, IsGraphic d := by
  induction label generalizing w with
  | nil => exact h
  | cons c rest ih => exact ih (isGraphic_pass h c)

private theorem isGraphic_place {label : List Char} {basic : Nat} (codes : List Nat) {next : Nat}
    {w : Writing} (h : ∀ c ∈ w.text, IsGraphic c) :
    ∀ d ∈ (Writing.place label basic next codes w).text, IsGraphic d := by
  induction codes generalizing next w with
  | nil => exact h
  | cons code rest ih =>
    rw [Writing.place]
    apply ih
    exact isGraphic_foldl_pass label h

private theorem isGraphic_encode {label : List Char}
    (h : ∀ c ∈ label, isAscii c = true → IsGraphic c) :
    ∀ d ∈ encode label, IsGraphic d := by
  intro d hd
  rw [encode] at hd
  rcases List.mem_append.mp hd with hd | hd
  · rcases List.mem_append.mp hd with hd | hd
    · obtain ⟨hmem, hascii⟩ := List.mem_filter.mp hd
      exact h d hmem hascii
    · split at hd
      · cases hd
      · rw [List.mem_singleton.mp hd]
        decide
  · exact isGraphic_place _ (by simp) d (List.mem_reverse.mp hd)

end Punycode

private theorem isGraphic_of_not_isDenied {c : Char} (h : isDenied c = false)
    (hascii : Punycode.isAscii c = true) : IsGraphic c := by
  simp only [isDenied, Bool.or_eq_false_iff, decide_eq_false_iff_not] at h
  simp only [Punycode.isAscii, decide_eq_true_eq] at hascii
  obtain ⟨⟨⟨hlow, hdelete⟩, _⟩, _⟩ := h
  exact ⟨by omega, by omega⟩

private theorem isGraphic_writeLabel {label : List Char} (h : isSound label = true) :
    ∀ c ∈ writeLabel label, IsGraphic c := by
  have hdenied : ∀ c ∈ label, isDenied c = false := by
    simp only [isSound, Bool.and_eq_true, Bool.not_eq_true', List.any_eq_false] at h
    intro c hc
    simpa using h.2 c hc
  rw [writeLabel]
  split
  · next hascii =>
    intro c hc
    exact isGraphic_of_not_isDenied (hdenied c hc) (List.all_eq_true.mp hascii c hc)
  · intro c hc
    rcases List.mem_append.mp hc with hc | hc
    · exact forall_mem_of_all (l := encodedMark) (by decide) c hc
    · exact Punycode.isGraphic_encode (fun d hd => isGraphic_of_not_isDenied (hdenied d hd)) c hc

private theorem isGraphic_written? {cs written : List Char} (h : written? cs = some written) :
    ∀ c ∈ written, IsGraphic c := by
  rw [written?, Option.map_eq_some_iff] at h
  obtain ⟨labels, hlabels, rfl⟩ := h
  have hsound : ∀ label ∈ labels, isSound label = true := by
    simp only [labels?, Option.bind_eq_bind, Option.bind_eq_some_iff,
      Option.ite_none_right_eq_some, Bool.and_eq_true] at hlabels
    obtain ⟨_, _, found, _, ⟨hall, _⟩, hfound⟩ := hlabels
    cases hfound
    exact List.all_eq_true.mp hall
  refine forall_mem_intercalate (forall_mem_of_all (by decide)) fun piece hpiece => ?_
  obtain ⟨label, hlabel, rfl⟩ := List.mem_map.mp hpiece
  exact isGraphic_writeLabel (hsound label hlabel)

end Name

theorem only_isGraphic_toString (n : Nat) : Only IsGraphic (toString n) :=
  only_toString (by decide) n

theorem only_isGraphic_ipv4Text (address : Nat) : Only IsGraphic (ipv4Text address) := by
  refine only_intercalate (by decide) fun s hs => ?_
  simp only [List.mem_cons, List.not_mem_nil, or_false] at hs
  rcases hs with rfl | rfl | rfl | rfl <;> exact only_isGraphic_toString _

private theorem only_isGraphic_hexGroups (groups : List Nat) :
    Only IsGraphic (hexGroups groups) := by
  refine only_intercalate (by decide) fun s hs => ?_
  obtain ⟨g, _, rfl⟩ := List.mem_map.mp hs
  rw [only_ofList]
  exact forall_mem_toDigits (by decide) (by decide) g

theorem only_isGraphic_ipv6Text (groups : List Nat) : Only IsGraphic (ipv6Text groups) := by
  have hopening : Only IsGraphic "[" := by decide
  have hclosing : Only IsGraphic "]" := by decide
  have hgap : Only IsGraphic "::" := by decide
  unfold ipv6Text
  dsimp only
  split
  · simp only [only_append]
    exact ⟨⟨hopening, only_isGraphic_hexGroups _⟩, hclosing⟩
  · simp only [only_append]
    exact ⟨⟨⟨⟨hopening, only_isGraphic_hexGroups _⟩, hgap⟩, only_isGraphic_hexGroups _⟩, hclosing⟩

private theorem only_isGraphic_bracketed {cs : List Char} {host : Host}
    (h : bracketed cs = .ok host) :
    Only IsGraphic host.text := by
  unfold bracketed at h
  split at h
  · split at h
    · cases h
      exact only_isGraphic_ipv6Text _
    · cases h
  · cases h

theorem only_isGraphic_hostParse {cs : List Char} {host : Host} (h : Host.parse cs = .ok host) :
    Only IsGraphic host.text := by
  unfold Host.parse at h
  split at h
  · exact only_isGraphic_bracketed h
  · split at h
    · cases h
    · split at h
      · cases h
      · cases h
      · next written _ hwritten =>
        split at h
        · split at h
          · cases h
            exact only_isGraphic_ipv4Text _
          · cases h
        · cases h
          exact only_ofList.mpr (Name.isGraphic_written? hwritten)

theorem only_isGraphic_hostParsePlain {cs : List Char} {host : Host}
    (h : Host.parsePlain cs = .ok host) : Only IsGraphic host.text := by
  unfold Host.parsePlain at h
  split at h
  · exact only_isGraphic_bracketed h
  · split at h
    · cases h
    · cases h
      exact only_isGraphic_encode _ _

theorem only_isGraphic_segmentText (isFile : Bool) (above : List String) (cs : List Char) :
    Only IsGraphic (segmentText isFile above cs) := by
  unfold segmentText
  split
  · next letter hdrive =>
    have hletter : letter.isAlpha = true := by
      split at hdrive
      · unfold drive? at hdrive
        split at hdrive
        · split at hdrive
          · next hmark =>
            cases hdrive
            simp only [Bool.and_eq_true] at hmark
            exact hmark.1
          · cases hdrive
        · cases hdrive
      · cases hdrive
    rw [driveText, only_ofList]
    intro c hc
    simp only [List.mem_cons, List.not_mem_nil, or_false] at hc
    rcases hc with rfl | rfl
    · exact isGraphic_of_isAlpha hletter
    · decide
  · exact only_isGraphic_encode _ _

section Segments

variable {P : String → Prop}

private theorem forall_mem_goUp {above : List String} (h : ∀ name ∈ above, P name) :
    ∀ name ∈ goUp above, P name := by
  cases above with
  | nil => exact h
  | cons last above =>
    rw [goUp]
    split
    · exact h
    · exact fun name hname => h name (List.mem_cons_of_mem last hname)

/-- Segments of a path are those above, empty ones, and texts of segments. -/
theorem forall_mem_resolve {isFile : Bool} (hempty : P "")
    (hsegment : ∀ above cs, P (segmentText isFile above cs)) {above : List String}
    (habove : ∀ name ∈ above, P name) (names : List (List Char)) :
    ∀ name ∈ resolve isFile above names, P name := by
  fun_induction resolve isFile above names with
  | case1 above => exact habove
  | case2 above last h =>
    exact List.forall_mem_cons.mpr ⟨hempty, forall_mem_goUp habove⟩
  | case3 above last h h' => exact List.forall_mem_cons.mpr ⟨hempty, habove⟩
  | case4 above last h h' => exact List.forall_mem_cons.mpr ⟨hsegment _ _, habove⟩
  | case5 above name rest _ h ih => exact ih (forall_mem_goUp habove)
  | case6 above name rest _ h h' ih => exact ih habove
  | case7 above name rest _ h h' ih =>
    exact ih (List.forall_mem_cons.mpr ⟨hsegment _ _, habove⟩)

end Segments

theorem only_isGraphic_pathNames (special isFile : Bool) {above : List String}
    (h : ∀ name ∈ above, Only IsGraphic name) (cs : List Char) :
    ∀ name ∈ pathNames special isFile above cs, Only IsGraphic name := by
  intro name hname
  exact forall_mem_resolve only_empty (only_isGraphic_segmentText isFile) h _ name
    (List.mem_reverse.mp hname)

structure Authority.Graphic (a : Authority) : Prop where
  user : Only IsGraphic a.user
  password : ∀ password ∈ a.password, Only IsGraphic password
  host : Only IsGraphic a.host.text

def Path.Graphic : Path → Prop
  | .segments names => ∀ name ∈ names, Only IsGraphic name
  | .plain text => Only IsGraphic text

/-- Every part is written in printable ASCII. -/
structure Graphic (u : Url) : Prop where
  scheme : Only IsGraphic u.scheme
  authority : ∀ a ∈ u.authority, a.Graphic
  path : u.path.Graphic
  query : ∀ query ∈ u.query, Only IsGraphic query
  fragment : ∀ fragment ∈ u.fragment, Only IsGraphic fragment

theorem Authority.Graphic.credentials {a : Authority} (h : a.Graphic) :
    Only IsGraphic a.credentials := by
  have hat : Only IsGraphic "@" := by decide
  have hcolon : Only IsGraphic ":" := by decide
  unfold Authority.credentials
  split
  · exact only_empty
  · exact only_append.mpr ⟨h.user, hat⟩
  · next password hpassword =>
    simp only [only_append]
    exact ⟨⟨⟨h.user, hcolon⟩, h.password password hpassword⟩, hat⟩

theorem Authority.Graphic.hostText {a : Authority} (h : a.Graphic) :
    Only IsGraphic a.hostText := by
  unfold Authority.hostText
  refine only_append.mpr ⟨h.host, ?_⟩
  split
  · exact only_append.mpr ⟨by decide, only_isGraphic_toString _⟩
  · exact only_empty

theorem Path.Graphic.text {path : Path} (h : path.Graphic) : Only IsGraphic path.text := by
  cases path with
  | segments names =>
    rw [Path.text, segmentsText, only_ofList]
    intro c hc
    obtain ⟨name, hname, hc⟩ := List.mem_flatMap.mp hc
    rcases List.mem_cons.mp hc with rfl | hc
    · decide
    · exact h name hname c hc
  | plain text => exact h

theorem Graphic.text {u : Url} (h : u.Graphic) : Only IsGraphic u.text := by
  have hauthority : Only IsGraphic u.authorityText := by
    unfold authorityText
    split
    · next _ a ha =>
      have hgraphic := h.authority a ha
      simp only [only_append]
      exact ⟨⟨by decide, hgraphic.credentials⟩, hgraphic.hostText⟩
    · decide
    · exact only_empty
  have hquery : Only IsGraphic (queryText u.query) := by
    unfold queryText
    split
    · next query hq => exact only_append.mpr ⟨by decide, h.query query hq⟩
    · exact only_empty
  have hfragment : Only IsGraphic (fragmentText u.fragment) := by
    unfold fragmentText
    split
    · next fragment hf => exact only_append.mpr ⟨by decide, h.fragment fragment hf⟩
    · exact only_empty
  simp only [Url.text, only_append]
  exact ⟨⟨⟨⟨⟨h.scheme, by decide⟩, hauthority⟩, h.path.text⟩, hquery⟩, hfragment⟩

theorem tailOf_graphic (special : Bool) (cs : List Char) :
    (∀ query ∈ (tailOf special cs).1, Only IsGraphic query) ∧
      ∀ fragment ∈ (tailOf special cs).2, Only IsGraphic fragment := by
  have hsome (p : Part) (t : List Char) : ∀ s ∈ some (p.encode t), Only IsGraphic s := by
    rintro s ⟨⟩
    exact only_isGraphic_encode p t
  have hnone : ∀ s ∈ (none : Option String), Only IsGraphic s := nofun
  unfold tailOf
  dsimp only
  split
  · split
    · exact ⟨hsome _ _, hsome _ _⟩
    · exact ⟨hsome _ _, hnone⟩
  · exact ⟨hnone, hsome _ _⟩
  · exact ⟨hnone, hnone⟩

theorem withTail_graphic {scheme : String} (hscheme : Only IsGraphic scheme)
    {authority : Option Authority} (hauthority : ∀ a ∈ authority, a.Graphic) {path : Path}
    (hpath : path.Graphic) (cs : List Char) : (withTail scheme authority path cs).Graphic where
  scheme := hscheme
  authority := hauthority
  path := hpath
  query := (tailOf_graphic _ cs).1
  fragment := (tailOf_graphic _ cs).2

theorem finish_graphic {scheme : String} (hscheme : Only IsGraphic scheme)
    {authority : Option Authority} (hauthority : ∀ a ∈ authority, a.Graphic) (cs : List Char) :
    (finish scheme authority cs).Graphic := by
  refine withTail_graphic hscheme hauthority ?_ cs
  intro name hname
  split at hname
  · cases hname
  · exact only_isGraphic_pathNames _ _ (by simp) _ name hname

theorem userOf_graphic (cs : List Char) :
    Only IsGraphic (userOf cs).1 ∧ ∀ password ∈ (userOf cs).2, Only IsGraphic password := by
  unfold userOf
  dsimp only
  split
  · exact ⟨only_isGraphic_encode _ _, nofun⟩
  · exact ⟨only_isGraphic_encode _ _, nofun⟩
  · refine ⟨only_isGraphic_encode _ _, ?_⟩
    rintro password ⟨⟩
    exact only_isGraphic_encode _ _

theorem authorityOf_graphic {scheme : String} {cs left : List Char} {a : Authority}
    (h : authorityOf scheme cs = .ok (a, left)) : a.Graphic := by
  have huser : Only IsGraphic (((splitUser cs).1.map userOf).getD ("", none)).1 ∧
      ∀ password ∈ (((splitUser cs).1.map userOf).getD ("", none)).2, Only IsGraphic password := by
    cases (splitUser cs).1 with
    | none => exact ⟨only_empty, nofun⟩
    | some userinfo => exact userOf_graphic userinfo
  unfold authorityOf at h
  dsimp only at h
  split at h
  · cases h
  · split at h
    · obtain ⟨host, hhost, h⟩ := bind_eq_ok_iff.mp h
      obtain ⟨port, _, h⟩ := bind_eq_ok_iff.mp h
      obtain ⟨rfl, _⟩ := Prod.mk.inj (Except.ok.inj h)
      exact ⟨huser.1, huser.2, only_isGraphic_hostParse hhost⟩
    · obtain ⟨host, hhost, h⟩ := bind_eq_ok_iff.mp h
      obtain ⟨port, _, h⟩ := bind_eq_ok_iff.mp h
      obtain ⟨rfl, _⟩ := Prod.mk.inj (Except.ok.inj h)
      exact ⟨huser.1, huser.2, only_isGraphic_hostParsePlain hhost⟩

theorem afterSlashes_graphic {scheme : String} (hscheme : Only IsGraphic scheme)
    {cs : List Char} {u : Url} (h : afterSlashes scheme cs = .ok u) : u.Graphic := by
  obtain ⟨⟨authority, left⟩, hauthority, h⟩ := bind_eq_ok_iff.mp h
  cases h
  refine finish_graphic hscheme ?_ _
  rintro a ⟨⟩
  exact authorityOf_graphic hauthority

theorem fileWith_graphic {host : Host} (hhost : Only IsGraphic host.text) (cs : List Char) :
    (fileWith host cs).Graphic := by
  refine withTail_graphic (by decide) ?_ ?_ cs
  · rintro a ⟨⟩
    refine ⟨only_empty, nofun, ?_⟩
    dsimp only
    split
    · exact only_empty
    · exact hhost
  · intro name hname
    have hnames : ∀ name ∈ pathNames true true [] (pathPart cs), Only IsGraphic name :=
      only_isGraphic_pathNames _ _ (by simp) _
    unfold dropEmpty at hname
    split at hname
    · rw [List.mem_singleton.mp hname]
      exact only_empty
    · exact hnames name ((List.dropWhile_sublist _).mem hname)

theorem fileUrl_graphic {cs : List Char} {u : Url} (h : fileUrl cs = .ok u) : u.Graphic := by
  have hnone : Only IsGraphic (Host.name "").text := only_empty
  have hslashes {cs : List Char} {u : Url} (h : fileAfterSlashes cs = .ok u) : u.Graphic := by
    unfold fileAfterSlashes at h
    dsimp only at h
    split at h
    · cases h
      exact fileWith_graphic hnone _
    · split at h
      · cases h
        exact fileWith_graphic hnone _
      · obtain ⟨host, hhost, h⟩ := bind_eq_ok_iff.mp h
        split at h
        · cases h
          exact fileWith_graphic hnone _
        · cases h
          exact fileWith_graphic (only_isGraphic_hostParse hhost) _
  unfold fileUrl at h
  split at h
  · split at h
    · exact hslashes h
    · cases h
      exact fileWith_graphic hnone _
  · cases h
    exact fileWith_graphic hnone _

theorem afterScheme_graphic {scheme : String} (hscheme : Only IsGraphic scheme)
    {cs : List Char} {u : Url} (h : afterScheme scheme cs = .ok u) : u.Graphic := by
  unfold afterScheme at h
  split at h
  · exact fileUrl_graphic h
  · split at h
    · exact afterSlashes_graphic hscheme h
    · unfold plainUrl at h
      split at h
      · exact afterSlashes_graphic hscheme h
      · cases h
        exact finish_graphic hscheme (by simp) _
      · cases h
        refine withTail_graphic hscheme (by simp) ?_ _
        exact only_isGraphic_encode _ _

theorem parse_graphic {s : String} {u : Url} (h : parse s = .ok u) : u.Graphic := by
  unfold parse at h
  split at h
  · cases h
  · next hscheme => exact afterScheme_graphic (only_isGraphic_scheme? hscheme) h

theorem relativeTo_graphic {base u : Url} (hbase : base.Graphic) {cs : List Char}
    (h : relativeTo base cs = .ok u) : u.Graphic := by
  have hunder {above : List String} (habove : ∀ name ∈ above, Only IsGraphic name)
      (cs : List Char) : (withTail base.scheme base.authority
        (.segments (pathNames true false above (pathPart cs))) cs).Graphic := by
    refine withTail_graphic hbase.scheme hbase.authority ?_ cs
    exact only_isGraphic_pathNames _ _ habove _
  have habove : ∀ name ∈ base.path.above, Only IsGraphic name := by
    intro name hname
    have hpath := hbase.path
    cases hp : base.path with
    | segments names =>
      rw [hp] at hname hpath
      exact hpath name ((List.dropLast_sublist names).mem (List.mem_reverse.mp hname))
    | plain text =>
      rw [hp] at hname
      cases hname
  unfold relativeTo at h
  dsimp only at h
  split at h
  · cases h
    exact { hbase with fragment := nofun }
  · cases h
    exact withTail_graphic hbase.scheme hbase.authority hbase.path _
  · cases h
    refine { hbase with fragment := ?_ }
    rintro fragment ⟨⟩
    exact only_isGraphic_encode _ _
  · exact afterSlashes_graphic hbase.scheme h
  · split at h
    · split at h
      · exact afterSlashes_graphic hbase.scheme h
      · cases h
        exact hunder (by simp) _
    · cases h
      exact hunder habove _

theorem join_graphic {base u : Url} (hbase : base.Graphic) {s : String}
    (h : base.join s = .ok u) : u.Graphic := by
  unfold join at h
  split at h
  · exact relativeTo_graphic hbase h
  · next hscheme =>
    split at h
    · exact relativeTo_graphic hbase h
    · exact afterScheme_graphic (only_isGraphic_scheme? hscheme) h

theorem Graphic.withoutCredentials {u : Url} (h : u.Graphic) : u.withoutCredentials.Graphic := by
  refine { h with authority := ?_ }
  intro a ha
  obtain ⟨given, hgiven, rfl⟩ := Option.map_eq_some_iff.mp ha
  have hgraphic := h.authority given hgiven
  unfold Authority.withoutCredentials
  split
  · exact ⟨only_empty, nofun, hgraphic.host⟩
  · exact hgraphic

theorem Graphic.addressed {u : Url} (h : u.Graphic) : u.addressed.Graphic := by
  refine { h with path := ?_, fragment := nofun }
  dsimp only [Url.addressed]
  split
  · intro name hname
    rw [List.mem_singleton.mp hname]
    exact only_empty
  · exact h.path

end LspProbe.Url
