import LspProbe.Http.Exchange
import LspProbe.Proofs.Url.Characters
import Mathlib.Data.List.TakeWhile

/-!
# URLs under the origin of a server

A text that starts with the origin of a server and goes on with a slash is read as a URL of that
server, whatever follows. The path keeps its last segment unless that is one or two dots: dots in
front of it, blanks and line breaks change the segments before it only.
-/

namespace LspProbe.Url

open Text

/-- A text that neither starts nor ends with a blank or control only loses tabs and line breaks. -/
private theorem clean_eq_filter {s : String} {c d : Char} (hfirst : s.toList.head? = some c)
    (hlast : s.toList.getLast? = some d) (hc : isTrimmed c = false) (hd : isTrimmed d = false) :
    clean s = s.toList.filter (!isDropped ·) := by
  have hdrop {c : Char} {cs : List Char} (hcs : cs.head? = some c) (hc : isTrimmed c = false) :
      cs.dropWhile isTrimmed = cs := by
    obtain ⟨rest, rfl⟩ := List.head?_eq_some_iff.mp hcs
    simp [hc]
  rw [clean, hdrop hfirst hc, hdrop (List.head?_reverse.trans hlast) hd, List.reverse_reverse]

private theorem pathPart_eq_self {cs : List Char} (h : ∀ c ∈ cs, isEnd c = false) :
    pathPart cs = cs := by
  rw [pathPart, List.takeWhile_eq_self_iff]
  intro c hc
  rw [h c hc, Bool.not_false]

private theorem tailOf_eq_none (special : Bool) {cs : List Char} (h : ∀ c ∈ cs, isEnd c = false) :
    tailOf special cs = (none, none) := by
  have hdrop : cs.dropWhile (!isEnd ·) = [] := by
    rw [List.dropWhile_eq_nil_iff]
    intro c hc
    rw [h c hc, Bool.not_false]
  rw [tailOf, hdrop]

private theorem valueIn?_digitChars {ds : List Nat} (h : ∀ d ∈ ds, d < 10) :
    valueIn? 10 (ds.map Nat.digitChar) = some (appendDigits 0 ds) := by
  have hdigit : ∀ d < 10, Ascii.hexDigit? (Nat.digitChar d).toUInt8 = some d ∧
      (Nat.digitChar d).toNat < 0x80 := by decide
  rw [valueIn?, appendDigits]
  generalize 0 = value
  induction ds generalizing value with
  | nil => rfl
  | cons d ds ih =>
    obtain ⟨hd, hds⟩ := List.forall_mem_cons.mp h
    obtain ⟨hvalue, hascii⟩ := hdigit d hd
    rw [List.map_cons, List.foldlM_cons, hvalue, List.foldl_cons]
    dsimp only
    rw [if_pos ⟨hascii, hd⟩]
    exact ih hds _

/-- The port that a URL says, if that is not the default one. -/
def writtenPort (n : Nat) : Option Nat := if n = 80 then none else some n

theorem portOf_toString {n : Nat} (h : n ≤ 65535) :
    portOf "http" (':' :: (toString n).toList) = .ok (writtenPort n) := by
  have hdigits := isDigits_decimal n
  have hvalue := valueIn?_digitChars hdigits.lt_ten
  rw [appendDigits_decimal] at hvalue
  obtain ⟨d, ds, hds⟩ := List.exists_cons_of_ne_nil hdigits.ne_nil
  rw [hds, List.map_cons] at hvalue
  rw [toList_toString, hds, List.map_cons, portOf]
  · simp only [hvalue]
    rw [if_neg (by omega), writtenPort]
    by_cases h80 : n = 80
    · simp [h80, defaultPort?]
    · simp [defaultPort?, Ne.symm h80, h80]
  · simp

/-- What an origin starts with. -/
def schemeChars : List Char := ['h', 't', 't', 'p', ':', '/', '/']

def hostChars : List Char := ['1', '2', '7', '.', '0', '.', '0', '.', '1']

/-- The characters of an origin after its scheme. -/
def originChars (n : Nat) : List Char := hostChars ++ ':' :: (toString n).toList

/-- A class that has the digits, the dot and the colon has all characters of an origin. -/
theorem forall_mem_originChars {P : Char → Prop} (hdigit : ∀ d < 10, P (Nat.digitChar d))
    (hdot : P '.') (hcolon : P ':') (n : Nat) : ∀ c ∈ originChars n, P c := by
  have hhost : ∀ c ∈ hostChars, c = '.' ∨ ∃ d < 10, c = Nat.digitChar d :=
    forall_mem_of_all (by decide)
  refine List.forall_mem_append.mpr ⟨fun c hc => ?_, ?_⟩
  · rcases hhost c hc with rfl | ⟨d, hd, rfl⟩
    · exact hdot
    · exact hdigit d hd
  · exact List.forall_mem_cons.mpr ⟨hcolon, only_toString hdigit n⟩

private theorem splitUser_originChars (n : Nat) :
    splitUser (originChars n) = (none, originChars n) := by
  have hdrop : (originChars n).reverse.dropWhile (· ≠ '@') = [] := by
    rw [List.dropWhile_eq_nil_iff]
    intro c hc
    rw [decide_eq_true_eq]
    exact forall_mem_originChars (P := (· ≠ '@')) (by decide) (by decide) (by decide) n c
      (List.mem_reverse.mp hc)
  rw [splitUser, hdrop]

private theorem hostParse_hostChars : Host.parse hostChars = .ok (.ipv4 Http.Server.address) := by
  decide +kernel

/-- The authority that a server on this machine has in URLs. -/
def authorityAt (n : Nat) : Authority := ⟨"", none, .ipv4 Http.Server.address, writtenPort n⟩

private theorem authorityOf_originChars {n : Nat} (h : n ≤ 65535) :
    authorityOf "http" (originChars n) = .ok (authorityAt n, []) := by
  have hsplit : splitHost false (originChars n) = (hostChars, ':' :: (toString n).toList) := rfl
  have hplain : ∀ c ∈ ':' :: (toString n).toList, decide (c ≠ '\\') = true := by
    refine List.forall_mem_cons.mpr ⟨by decide, fun c hc => ?_⟩
    rw [decide_eq_true_eq]
    exact only_toString (P := (· ≠ '\\')) (by decide) n c hc
  have htake := List.takeWhile_eq_self_iff.mpr hplain
  have hdrop := List.dropWhile_eq_nil_iff.mpr hplain
  have hspecial : isSpecial "http" = true := by decide
  simp only [authorityOf, splitUser_originChars, hsplit, htake, hdrop, hspecial,
    hostParse_hostChars, portOf_toString h, ok_bind]
  rfl

private theorem segmentText_eq_encode (above : List String) (cs : List Char) :
    segmentText false above cs = Part.path.encode cs := rfl

/-- Whatever stands before it, a last segment that is not made of dots is kept. -/
theorem resolve_append_last {last : List Char} (hdot : isDot last = false)
    (hdouble : isDoubleDot last = false) (above : List String) (names : List (List Char)) :
    ∃ kept, resolve false above (names ++ [last]) = Part.path.encode last :: kept := by
  induction names generalizing above with
  | nil => exact ⟨above, by simp [resolve, hdot, hdouble, segmentText_eq_encode]⟩
  | cons name rest ih =>
    obtain ⟨next, more, hnext⟩ := List.exists_cons_of_ne_nil (List.concat_ne_nil last rest)
    rw [hnext] at ih
    rw [List.cons_append, hnext, resolve]
    split
    · exact ih _
    · split
      · exact ih _
      · exact ih _
    · simp

theorem only_encodes_pathNames (special : Bool) (cs : List Char) :
    ∀ name ∈ pathNames special false [] cs, Only (Part.path.encodes · = false) name := by
  intro name hname
  have hsegment (above : List String) (cs : List Char) :
      Only (Part.path.encodes · = false) (segmentText false above cs) := by
    rw [segmentText_eq_encode]
    exact only_encode .path cs
  exact forall_mem_resolve only_empty hsegment (by simp) _ name (List.mem_reverse.mp hname)

theorem only_encodes_segmentsText {names : List String}
    (h : ∀ name ∈ names, Only (Part.path.encodes · = false) name) :
    Only (Part.path.encodes · = false) (segmentsText names) := by
  rw [segmentsText, only_ofList]
  intro c hc
  obtain ⟨name, hname, hc⟩ := List.mem_flatMap.mp hc
  rcases List.mem_cons.mp hc with rfl | hc
  · decide
  · exact h name hname c hc

theorem isPlain_of_not_encodes {c : Char} (h : Part.path.encodes c = false) :
    0x20 < c.toNat ∧ c.toNat < 0x7F ∧ c ≠ '?' ∧ c ≠ '#' := by
  obtain ⟨hlow, hhigh⟩ := isGraphic_of_not_encodes h
  have hne {d : Char} (hd : Part.path.encodes d = true) : c ≠ d := by
    rintro rfl
    exact absurd h (by simp [hd])
  have hspace : c.toNat ≠ 0x20 := fun h20 => hne (d := ' ') (by decide) (Char.toNat_inj.mp h20)
  exact ⟨by omega, hhigh, hne (by decide), hne (by decide)⟩

private theorem AuthorityScan.next?_of_isAuthorityChar (s : AuthorityScan) {c : Char}
    (h : isAuthorityChar c = true) : s.next? c = some s := by
  unfold next?
  split
  case h_6 => exact if_pos h
  all_goals exact absurd h (by decide)

private theorem AuthorityScan.foldlM_next? (s : AuthorityScan) {cs : List Char}
    (h : ∀ c ∈ cs, isAuthorityChar c = true) : cs.foldlM next? s = some s := by
  induction cs with
  | nil => rfl
  | cons c rest ih =>
    obtain ⟨hc, hrest⟩ := List.forall_mem_cons.mp h
    rw [List.foldlM_cons, s.next?_of_isAuthorityChar hc]
    exact ih hrest

private theorem isAuthority_originChars (n : Nat) : isAuthority (originChars n) = true := by
  have hdigits : ∀ c ∈ (toString n).toList, isAuthorityChar c = true := by
    exact only_toString (P := (isAuthorityChar · = true)) (by decide) n
  have hscan : (originChars n).foldlM AuthorityScan.next? ⟨0, false, false, false⟩ =
      some ⟨1, false, false, false⟩ := by
    refine List.foldlM_append.trans ?_
    exact AuthorityScan.foldlM_next? ⟨1, false, false, false⟩ hdigits
  have hlast : (originChars n).getLast? ≠ some '@' := by
    intro h
    exact forall_mem_originChars (P := (· ≠ '@')) (by decide) (by decide) (by decide) n '@'
      (List.mem_of_getLast? h) rfl
  simp [isAuthority, hscan, hlast]

/-- The characters of an authority: those of an origin, but for the default port. -/
def authorityChars (n : Nat) : List Char := if n = 80 then hostChars else originChars n

private theorem isAuthority_authorityChars (n : Nat) : isAuthority (authorityChars n) = true := by
  unfold authorityChars
  split
  · decide +kernel
  · exact isAuthority_originChars n

private theorem forall_mem_authorityChars (n : Nat) :
    ∀ c ∈ authorityChars n, (!endsAuthority false c) = true := by
  unfold authorityChars
  split
  · exact forall_mem_of_all (by decide)
  · exact forall_mem_originChars (P := fun c => (!endsAuthority false c) = true) (by decide)
      (by decide) (by decide) n

private theorem isAddressText_http {authority path : List Char}
    (hauthority : isAuthority authority = true) (hne : authority ≠ [])
    (hinside : ∀ c ∈ authority, (!endsAuthority false c) = true)
    (hpath : path = [] ∨ ∃ rest, path = '/' :: rest)
    (hlength : (schemeChars ++ (authority ++ path)).length ≤ maxAddress) :
    isAddressText (schemeChars ++ (authority ++ path)) = true := by
  have htake : (authority ++ path).takeWhile (!endsAuthority false ·) = authority := by
    have hslash : endsAuthority false '/' = true := by decide
    rw [List.takeWhile_append_of_pos hinside]
    rcases hpath with rfl | ⟨rest, rfl⟩ <;> simp [hslash]
  have hdrop : (schemeChars ++ (authority ++ path)).dropWhile isSchemeChar =
      ':' :: '/' :: '/' :: (authority ++ path) := rfl
  have hscheme : (schemeChars ++ (authority ++ path)).takeWhile isSchemeChar =
      ['h', 't', 't', 'p'] := rfl
  rw [isAddressText, hdrop, decide_eq_true hlength]
  simp [hscheme, htake, hauthority, hne, maxScheme]

end LspProbe.Url

namespace LspProbe.Http.Server

open Text Url

/-- The URL of a path at a server. -/
def urlAt (server : Server) (names : List String) : Url where
  scheme := "http"
  authority := some (authorityAt server.port.toNat)
  path := .segments names
  query := none
  fragment := none

variable (server : Server)

theorem toList_origin : server.origin.toList = schemeChars ++ originChars server.port.toNat := by
  have haddress : "http://" ++ ipv4Text address ++ ":" = "http://" ++ "127.0.0.1:" := by
    decide +kernel
  have horigin : server.origin = "http://" ++ "127.0.0.1:" ++ toString server.port.toNat :=
    congrArg (· ++ toString server.port.toNat) haddress
  have happend (s t u : String) : (s ++ t ++ u).toList = s.toList ++ (t.toList ++ u.toList) := by
    rw [String.toList_append, String.toList_append, List.append_assoc]
  exact (congrArg String.toList horigin).trans (happend _ _ _)

private theorem finish_eq_urlAt {t : List Char} (h : ∀ c ∈ t, isEnd c = false) :
    finish "http" (some (authorityAt server.port.toNat)) ('/' :: t) =
      server.urlAt (pathNames true false [] t) := by
  have hends : ∀ c ∈ '/' :: t, isEnd c = false := List.forall_mem_cons.mpr ⟨by decide, h⟩
  have hspecial : isSpecial "http" = true := by decide
  have hdrop : dropSeparator true ('/' :: t) = t := by simp [dropSeparator, isSeparator]
  simp [finish, withTail, pathPart_eq_self hends, tailOf_eq_none _ hends, hspecial, hdrop, urlAt]

private theorem afterSlashes_origin {t : List Char} (h : ∀ c ∈ t, isEnd c = false) :
    afterSlashes "http" (originChars server.port.toNat ++ '/' :: t) =
      .ok (server.urlAt (pathNames true false [] t)) := by
  have hlt : server.port.toNat ≤ 65535 := by
    have := server.port.toNat_lt
    omega
  have hinside : ∀ c ∈ originChars server.port.toNat, (!endsAuthority true c) = true :=
    forall_mem_originChars (P := fun c => (!endsAuthority true c) = true) (by decide) (by decide)
      (by decide) _
  have hslash : endsAuthority true '/' = true := by decide
  have hspecial : isSpecial "http" = true := by decide
  simp only [afterSlashes, hspecial, List.takeWhile_append_of_pos hinside,
    List.dropWhile_append_of_pos hinside, List.takeWhile_cons, List.dropWhile_cons, hslash,
    Bool.not_true, Bool.false_eq_true, if_false, List.append_nil, authorityOf_originChars hlt,
    ok_bind, List.nil_append, server.finish_eq_urlAt h]

/-- What follows the origin of a server, if it starts with a slash, is a path at that server. -/
theorem parse_origin_append {path : String} {t : List Char} {d : Char}
    (hpath : path.toList.filter (!isDropped ·) = '/' :: t) (hend : ∀ c ∈ t, isEnd c = false)
    (hlast : path.toList.getLast? = some d) (hd : isTrimmed d = false) :
    Url.parse (server.origin ++ path) = .ok (server.urlAt (pathNames true false [] t)) := by
  have hkept : ∀ c ∈ server.origin.toList, (!isDropped c) = true := by
    rw [toList_origin, List.forall_mem_append]
    refine ⟨forall_mem_of_all (by decide), ?_⟩
    exact forall_mem_originChars (P := fun c => (!isDropped c) = true) (by decide) (by decide)
      (by decide) _
  have hclean : clean (server.origin ++ path) =
      schemeChars ++ (originChars server.port.toNat ++ '/' :: t) := by
    have hfirst : (server.origin ++ path).toList.head? = some 'h' := by
      rw [String.toList_append, toList_origin]
      rfl
    have hlast : (server.origin ++ path).toList.getLast? = some d := by
      rw [String.toList_append, List.getLast?_append, hlast, Option.some_or]
    rw [clean_eq_filter hfirst hlast (by decide) hd, String.toList_append, List.filter_append,
      List.filter_eq_self.mpr hkept, hpath, toList_origin, List.append_assoc]
  have hscheme : scheme? (clean (server.origin ++ path)) =
      some ("http", '/' :: '/' :: (originChars server.port.toNat ++ '/' :: t)) := by
    rw [hclean]
    rfl
  have hslashes : ('/' :: '/' :: (originChars server.port.toNat ++ '/' :: t)).dropWhile
      (isSeparator true ·) = originChars server.port.toNat ++ '/' :: t := rfl
  have hspecial : isSpecial "http" = true := by decide
  rw [Url.parse, hscheme]
  simp only [afterScheme, hspecial, hslashes, server.afterSlashes_origin hend]
  rfl

theorem withoutCredentials_urlAt (names : List String) :
    (server.urlAt names).withoutCredentials = server.urlAt names := by
  have hseparable : (authorityAt server.port.toNat).isSeparable = false := by
    simp [Authority.isSeparable, authorityAt]
  simp [urlAt, withoutCredentials, Authority.withoutCredentials, hseparable]

theorem target_urlAt (names : List String) : (server.urlAt names).target = segmentsText names := by
  simp [urlAt, Url.target, Path.text, queryText]

theorem ofUrl?_urlAt (names : List String) :
    Peer.ofUrl? (server.urlAt names).addressed = some server.peer := by
  have hport : (writtenPort server.port.toNat).or (defaultPort? "http") =
      some server.port.toNat := by
    unfold writtenPort
    split
    · next h80 =>
      rw [h80]
      rfl
    · rfl
  simp [Peer.ofUrl?, urlAt, addressed, authorityAt, port?, hport, peer]

private theorem toList_hostText (n : Nat) : (authorityAt n).hostText.toList = authorityChars n := by
  have haddress : (Host.ipv4 address).text ++ ":" = "127.0.0.1:" := by decide +kernel
  by_cases h : n = 80
  · rw [h]
    decide +kernel
  · rw [authorityAt, writtenPort, authorityChars, if_neg h, if_neg h]
    have htext : (Host.ipv4 address).text ++ (":" ++ toString n) = "127.0.0.1:" ++ toString n :=
      String.append_assoc.symm.trans (congrArg (· ++ toString n) haddress)
    exact (congrArg String.toList htext).trans String.toList_append

theorem toList_text_urlAt (names : List String) : (server.urlAt names).text.toList =
    schemeChars ++ (authorityChars server.port.toNat ++ (segmentsText names).toList) := by
  rw [← toList_hostText]
  simp only [Url.text, urlAt, authorityText, authorityAt, Authority.credentials, queryText,
    fragmentText, Path.text, String.toList_append, String.append_empty, List.append_assoc]
  rfl

theorem isAddress_urlAt {names : List String}
    (h : (server.urlAt names).text.length ≤ maxAddress) :
    (server.urlAt names).isAddress = true := by
  have hlength : (server.urlAt names).text.toList.length ≤ maxAddress := h
  have hpath : (segmentsText names).toList = [] ∨
      ∃ rest, (segmentsText names).toList = '/' :: rest := by
    rw [segmentsText, String.toList_ofList]
    cases names with
    | nil => exact .inl rfl
    | cons name rest => exact .inr ⟨_, rfl⟩
  have hne : authorityChars server.port.toNat ≠ [] := by
    unfold authorityChars
    split <;> exact List.cons_ne_nil _ _
  rw [toList_text_urlAt] at hlength
  rw [isAddress, toList_text_urlAt]
  exact isAddressText_http (isAuthority_authorityChars _) hne (forall_mem_authorityChars _) hpath
    hlength

end LspProbe.Http.Server

namespace LspProbe.Http

/-- The paths of a server that listens reach it, wherever other connections lead. -/
theorem Network.reaches_urlAt {network : Network} (h : network.server.listening = true)
    (names : List String) : network.Reaches (network.server.urlAt names).addressed where
  provable := by simp [isUnprovable, Server.urlAt, Url.addressed]
  led := routeTo_of_own_peer (network.server.ofUrl?_urlAt names)
  listening := h

end LspProbe.Http
