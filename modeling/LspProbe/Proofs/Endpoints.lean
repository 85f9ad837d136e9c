import LspProbe.Proofs.Chains
import LspProbe.Proofs.Url.Origin
import LspProbe.Proofs.Wire

/-!
# Endpoints

Every query is sent to the path of its own kind. Two base URLs give the same endpoints exactly if
they differ by no more than one slash at their end, and clients with such base URLs cannot be told
apart. A path that follows the origin of a server in a base URL may hold any characters that start
no query and no fragment: what is left of it stands before the endpoint.
-/

namespace LspProbe

open Http Text

/-- A text after a slash at its end, if there is one, is left out. -/
inductive Trimmed : String → String → Prop
  | slash (s : String) : Trimmed (s ++ "/") s
  | plain {s : String} (h : ∀ t, s ≠ t ++ "/") : Trimmed s s

private theorem getLast?_eq_slash_iff {s : String} :
    s.toList.getLast? = some '/' ↔ ∃ t, s = t ++ "/" := by
  rw [List.getLast?_eq_some_iff]
  constructor
  · rintro ⟨cs, hcs⟩
    refine ⟨String.ofList cs, String.toList_inj.mp ?_⟩
    rw [hcs, String.toList_append, String.toList_ofList]
    rfl
  · rintro ⟨t, rfl⟩
    exact ⟨t.toList, String.toList_append⟩

private theorem dropSlash_append_slash (s : String) : Config.dropSlash (s ++ "/") = s := by
  rw [Config.dropSlash, if_pos (getLast?_eq_slash_iff.mpr ⟨s, rfl⟩)]
  simp

theorem trimmed_iff_dropSlash_eq {s t : String} : Trimmed s t ↔ Config.dropSlash s = t := by
  constructor
  · rintro (_ | h)
    · exact dropSlash_append_slash t
    · rw [Config.dropSlash, if_neg]
      intro hslash
      obtain ⟨r, hr⟩ := getLast?_eq_slash_iff.mp hslash
      exact h r hr
  · rintro rfl
    by_cases h : ∃ t, s = t ++ "/"
    · obtain ⟨t, rfl⟩ := h
      rw [dropSlash_append_slash]
      exact .slash t
    · rw [Config.dropSlash, if_neg (mt getLast?_eq_slash_iff.mp h)]
      exact .plain fun t ht => h ⟨t, ht⟩

/-- What a text ends in tells the kinds apart. -/
private theorem endpoint_append_inj {s t : String} {k l : QueryKind}
    (h : s ++ k.endpoint = t ++ l.endpoint) : k = l ∧ s = t := by
  have hchars : s.toList ++ k.endpoint.toList = t.toList ++ l.endpoint.toList := by
    rw [← String.toList_append, h, String.toList_append]
  have hlast : k.endpoint.toList.getLast? = l.endpoint.toList.getLast? := by
    have hne (k : QueryKind) : k.endpoint.toList ≠ [] := by cases k <;> decide
    rw [← List.getLast?_append_of_ne_nil s.toList (hne k), hchars,
      List.getLast?_append_of_ne_nil t.toList (hne l)]
  have hkind : k = l := by
    revert hlast
    cases k <;> cases l <;> decide
  subst hkind
  exact ⟨rfl, String.toList_inj.mp (List.append_cancel_right hchars)⟩

theorem endpointOf_eq_iff {c c' : Config} {k k' : QueryKind} :
    c.endpointOf k = c'.endpointOf k' ↔
      k = k' ∧ ∃ r, Trimmed c.baseUrl r ∧ Trimmed c'.baseUrl r := by
  simp only [trimmed_iff_dropSlash_eq, exists_eq_left']
  constructor
  · intro h
    obtain ⟨hk, hbase⟩ := endpoint_append_inj h
    exact ⟨hk, hbase.symm⟩
  · rintro ⟨rfl, hbase⟩
    rw [Config.endpointOf, Config.endpointOf, Config.endpoint, Config.endpoint, hbase]

/-- Something that a client is told to do. -/
inductive Call where
  | findDefinition (position : Position)
  | findReferences (position : Position) (includeDeclaration : Bool)
  | signatureHelp (position : Position)
  | survey (position : Position)
  | run (test : TestKind) (target : Target) (includeDeclaration : Bool)

/-- What it comes to. -/
inductive Called where
  | locations (outcome : Outcome Locations)
  | signature (outcome : Outcome SignatureReply)
  | survey (survey : Survey)
  | execution (execution : Execution)

namespace Client

def call (c : Client) (script : Script) : Call → Asked Called
  | .findDefinition p => (c.findDefinition p script).map .locations
  | .findReferences p b => (c.findReferences p b script).map .locations
  | .signatureHelp p => (c.signatureHelp p script).map .signature
  | .survey p => (c.survey p script).map .survey
  | .run test target b => (c.run test target b script).map .execution

/-- Calls one after the other, each with the replies that those before it left. -/
def session (c : Client) (script : Script) : List Call → List (Asked Called)
  | [] => []
  | call :: rest => c.call script call :: c.session (c.call script call).left rest

section Congruence

variable {config config' : Config}
  (h : ∀ kind, config.endpointOf kind = config'.endpointOf kind) (network : Network)

include h

/-- Nothing of a configuration but the endpoints plays a part in a call. -/
theorem call_congr (script : Script) (call : Call) :
    Client.call ⟨config, network⟩ script call = Client.call ⟨config', network⟩ script call := by
  have hask : ask ⟨config, network⟩ = ask ⟨config', network⟩ := by
    funext q script
    simp only [ask, h]
  have hdefinition : findDefinition ⟨config, network⟩ = findDefinition ⟨config', network⟩ := by
    funext p script
    rw [findDefinition, hask, findDefinition]
  have hreferences : findReferences ⟨config, network⟩ = findReferences ⟨config', network⟩ := by
    funext p b script
    rw [findReferences, hask, findReferences]
  have hsignature : signatureHelp ⟨config, network⟩ = signatureHelp ⟨config', network⟩ := by
    funext p script
    rw [signatureHelp, hask, signatureHelp]
  have hsurvey : survey ⟨config, network⟩ = survey ⟨config', network⟩ := by
    funext p script
    rw [survey, hdefinition, hreferences, hsignature, survey]
  have hrun : run ⟨config, network⟩ = run ⟨config', network⟩ := by
    funext test target b script
    unfold run
    rw [hdefinition, hreferences, hsignature, hsurvey]
  cases call with
  | findDefinition p => rw [Client.call, hdefinition, Client.call]
  | findReferences p b => rw [Client.call, hreferences, Client.call]
  | signatureHelp p => rw [Client.call, hsignature, Client.call]
  | survey p => rw [Client.call, hsurvey, Client.call]
  | run test target b => rw [Client.call, hrun, Client.call]

theorem session_congr (script : Script) (calls : List Call) :
    Client.session ⟨config, network⟩ script calls =
      Client.session ⟨config', network⟩ script calls := by
  induction calls generalizing script with
  | nil => rfl
  | cons call rest ih => rw [session, session, call_congr h, ih]

end Congruence

end Client

/-- A text that may follow an origin: nothing, or a slash and what does not start a query or a
fragment. -/
structure IsPathText (p : String) : Prop where
  rooted : p = "" ∨ ∃ rest, p = "/" ++ rest
  plain : Only (fun c => c ≠ '?' ∧ c ≠ '#') p

private theorem getLast?_origin_ne_slash (server : Server) :
    server.origin.toList.getLast? ≠ some '/' := by
  have hne : Url.originChars server.port.toNat ≠ [] := List.cons_ne_nil _ _
  rw [Server.toList_origin, List.getLast?_append_of_ne_nil _ hne]
  intro h
  exact Url.forall_mem_originChars (P := (· ≠ '/')) (by decide) (by decide) (by decide) _ '/'
    (List.mem_of_getLast? h) rfl

private theorem dropSlash_origin_append (server : Server) (p : String) :
    Config.dropSlash (server.origin ++ p) = server.origin ++ Config.dropSlash p := by
  rw [← trimmed_iff_dropSlash_eq]
  by_cases h : p.toList.getLast? = some '/'
  · obtain ⟨t, rfl⟩ := getLast?_eq_slash_iff.mp h
    rw [dropSlash_append_slash, ← String.append_assoc]
    exact .slash _
  · rw [Config.dropSlash, if_neg h]
    refine .plain fun t ht => ?_
    have hlast := getLast?_eq_slash_iff.mpr ⟨t, ht⟩
    rw [String.toList_append, List.getLast?_append] at hlast
    cases hp : p.toList.getLast? with
    | none =>
      rw [hp, Option.none_or] at hlast
      exact getLast?_origin_ne_slash server hlast
    | some c =>
      rw [hp, Option.some_or] at hlast
      exact h (hp.trans hlast)

private theorem isPrefix_dropSlash (p : String) : (Config.dropSlash p).toList <+: p.toList := by
  unfold Config.dropSlash
  split
  · rw [String.toList_ofList]
    exact List.dropLast_prefix p.toList
  · exact List.prefix_refl p.toList

namespace IsPathText

variable {p : String} (h : IsPathText p)

include h

/-- Before the endpoint there is nothing, or a slash and something. -/
private theorem toList_dropSlash :
    (Config.dropSlash p).toList = [] ∨ ∃ rest, (Config.dropSlash p).toList = '/' :: rest := by
  have hprefix := isPrefix_dropSlash p
  rcases h.rooted with rfl | ⟨rest, rfl⟩
  · exact .inl (List.prefix_nil.mp hprefix)
  · rw [String.toList_append] at hprefix
    rcases List.prefix_cons_iff.mp hprefix with h | ⟨t, ht, _⟩
    · exact .inl h
    · exact .inr ⟨t, ht⟩

private theorem isEnd_dropSlash : ∀ c ∈ (Config.dropSlash p).toList, Url.isEnd c = false := by
  intro c hc
  obtain ⟨hquery, hfragment⟩ := h.plain c ((isPrefix_dropSlash p).subset hc)
  simp [Url.isEnd, hquery, hfragment]

/-- The endpoint is the last segment of what follows the origin. -/
private theorem splitPath_endpoint (kind : QueryKind) :
    ∃ t names, (Config.dropSlash p ++ kind.endpoint).toList.filter (!Url.isDropped ·) = '/' :: t ∧
      (∀ c ∈ t, Url.isEnd c = false) ∧ Url.splitPath true t = names ++ [kind.name.toList] := by
  have hname : kind.endpoint.toList.filter (!Url.isDropped ·) = '/' :: kind.name.toList ∧
      (kind.name.toList.all fun c => !Url.isEnd c) = true ∧
      Url.splitPath true kind.name.toList = [kind.name.toList] := by
    cases kind <;> decide +kernel
  obtain ⟨hkept, hend, hwhole⟩ := hname
  have hend : ∀ c ∈ kind.name.toList, Url.isEnd c = false := by
    simpa using hend
  rw [String.toList_append, List.filter_append, hkept]
  rcases h.toList_dropSlash with hp | ⟨rest, hp⟩
  · rw [hp]
    exact ⟨kind.name.toList, [], rfl, hend, hwhole⟩
  · have hrest := h.isEnd_dropSlash
    rw [hp, List.forall_mem_cons] at hrest
    refine ⟨rest.filter (!Url.isDropped ·) ++ '/' :: kind.name.toList,
      Url.splitPath true (rest.filter (!Url.isDropped ·)), by rw [hp]; rfl, ?_, ?_⟩
    · rw [List.forall_mem_append, List.forall_mem_cons]
      exact ⟨fun c hc => hrest.2 c (List.mem_of_mem_filter hc), by decide, hend⟩
    · rw [Url.splitPath, splitWhere_append _ _ (by decide), ← Url.splitPath, ← Url.splitPath,
        hwhole]

end IsPathText

/-- The URL of a query under the origin of a server is a path there that ends in its endpoint. -/
theorem parse_endpointOf (server : Server) {p : String} (hp : IsPathText p) {c : Config}
    (hbase : c.baseUrl = server.origin ++ p) (kind : QueryKind) :
    ∃ names, Url.parse (c.endpointOf kind) = .ok (server.urlAt (names ++ [kind.name])) ∧
      ∀ name ∈ names, Only (Url.Part.path.encodes · = false) name := by
  obtain ⟨t, pieces, hpath, hend, hsplit⟩ := hp.splitPath_endpoint kind
  have hname : Url.isDot kind.name.toList = false ∧ Url.isDoubleDot kind.name.toList = false ∧
      Url.Part.path.encode kind.name.toList = kind.name := by
    cases kind <;> decide +kernel
  have hlast : ∃ d, kind.endpoint.toList.getLast? = some d ∧ Url.isTrimmed d = false := by
    cases kind <;> exact ⟨_, rfl, by decide⟩
  obtain ⟨hdot, hdouble, hencode⟩ := hname
  obtain ⟨d, hlast, hd⟩ := hlast
  obtain ⟨kept, hkept⟩ := Url.resolve_append_last hdot hdouble [] pieces
  have hnames : Url.pathNames true false [] t = kept.reverse ++ [kind.name] := by
    rw [Url.pathNames, hsplit, hkept, List.reverse_cons, hencode]
  have haddress : c.endpointOf kind = server.origin ++ (Config.dropSlash p ++ kind.endpoint) := by
    rw [Config.endpointOf, Config.endpoint, hbase, dropSlash_origin_append, String.append_assoc]
  refine ⟨kept.reverse, ?_, fun name hmem => ?_⟩
  · rw [haddress, server.parse_origin_append hpath hend ?_ hd, hnames]
    rw [String.toList_append, List.getLast?_append, hlast, Option.some_or]
  · apply Url.only_encodes_pathNames true t
    rw [hnames]
    exact List.mem_append_left _ hmem

private theorem builds_of_parse {c : Config} {server : Server} {kind : QueryKind}
    {names : List String} (h : Url.parse (c.endpointOf kind) = .ok (server.urlAt names))
    (hlength : (server.urlAt names).text.length ≤ Url.maxAddress) :
    c.Builds kind (server.urlAt names) where
  parsed := by
    rw [h]
    exact congrArg Except.ok (server.withoutCredentials_urlAt names)
  isHttp := rfl
  isAddress := server.isAddress_urlAt hlength

/-- A target for a kind of query: a path that ends in the endpoint of that kind and of no other,
written in printable ASCII without blanks. -/
structure QueryKind.IsTarget (kind : QueryKind) (target : String) : Prop where
  rooted : ∃ rest, target = "/" ++ rest
  ends : ∀ k : QueryKind, (∃ front, target = front ++ k.endpoint) ↔ k = kind
  plain : Only (fun c => 0x20 < c.toNat ∧ c.toNat < 0x7F ∧ c ≠ '?' ∧ c ≠ '#') target

private theorem isTarget_segmentsText {names : List String} {kind : QueryKind}
    (h : ∀ name ∈ names, Only (Url.Part.path.encodes · = false) name) :
    kind.IsTarget (Url.segmentsText (names ++ [kind.name])) := by
  have hend : Url.segmentsText (names ++ [kind.name]) =
      Url.segmentsText names ++ kind.endpoint := by
    apply String.toList_inj.mp
    simp [Url.segmentsText, QueryKind.endpoint]
  have hkind : Only (Url.Part.path.encodes · = false) kind.name := by cases kind <;> decide
  refine { rooted := ?_, ends := fun k => ⟨?_, ?_⟩, plain := ?_ }
  · obtain ⟨name, rest, hcons⟩ := List.exists_cons_of_ne_nil (List.concat_ne_nil kind.name names)
    refine ⟨name ++ Url.segmentsText rest, String.toList_inj.mp ?_⟩
    rw [hcons]
    simp [Url.segmentsText]
  · rintro ⟨front, hfront⟩
    exact (endpoint_append_inj (hfront.symm.trans hend)).1
  · rintro rfl
    exact ⟨_, hend⟩
  · have hnames : ∀ name ∈ names ++ [kind.name], Only (Url.Part.path.encodes · = false) name := by
      simpa [or_imp, forall_and] using ⟨h, hkind⟩
    exact (Url.only_encodes_segmentsText hnames).mono fun c hc => Url.isPlain_of_not_encodes hc

theorem ask_isTarget {config : Config} {network : Network} {q : Query} {names : List String}
    (hbuilds : config.Builds q.kind (network.server.urlAt (names ++ [q.kind.name])))
    (hnames : ∀ name ∈ names, Only (Url.Part.path.encodes · = false) name)
    (hlistening : network.server.listening = true) (script : Script) :
    ∃ r, (Client.ask ⟨config, network⟩ q script).requests.head? = some r ∧
      q.kind.IsTarget r.target := by
  have hreaches : config.Reaches network q.kind
      (network.server.urlAt (names ++ [q.kind.name])) :=
    ⟨hbuilds, Network.reaches_urlAt hlistening _⟩
  refine ⟨posting (network.server.urlAt (names ++ [q.kind.name])) q.body, ?_, ?_⟩
  · exact Client.ask_head?_of_reaches hreaches script
  · rw [posting, Server.target_urlAt]
    exact isTarget_segmentsText hnames

/-- The URL of a query names its kind, and the base URL up to a slash at its end: sessions with
and without that slash are the same. Under the origin of a server, every path that starts no query
and no fragment gives a URL, and a request that fits the length of addresses is sent to the
endpoint of its kind below that path. -/
theorem queries_reach_own_endpoint (network : Network) (p : String) (hp : IsPathText p)
    (timeout : Option Nat) (q : Query) :
    (∀ (c c' : Config) (k k' : QueryKind), c.endpointOf k = c'.endpointOf k' ↔
      k = k' ∧ ∃ r, Trimmed c.baseUrl r ∧ Trimmed c'.baseUrl r) ∧
    (∀ (b : String) (timeout : Option Nat) (network : Network) (script : Script)
      (calls : List Call), (∀ t, b ≠ t ++ "/") →
      Client.session ⟨⟨b ++ "/", timeout⟩, network⟩ script calls =
        Client.session ⟨⟨b, timeout⟩, network⟩ script calls) ∧
    ∃ url, Url.parse (Config.endpointOf ⟨network.server.origin ++ p, timeout⟩ q.kind) = .ok url ∧
      (url.text.length ≤ Url.maxAddress →
        Config.Builds ⟨network.server.origin ++ p, timeout⟩ q.kind url ∧
        (network.server.listening = true → ∀ script, ∃ r,
          (Client.ask ⟨⟨network.server.origin ++ p, timeout⟩, network⟩ q script).requests.head? =
            some r ∧
          q.kind.IsTarget r.target)) := by
  refine ⟨fun c c' k k' => endpointOf_eq_iff, ?_, ?_⟩
  · intro b timeout network script calls hb
    have hendpoint (kind : QueryKind) :
        Config.endpointOf ⟨b ++ "/", timeout⟩ kind = Config.endpointOf ⟨b, timeout⟩ kind :=
      endpointOf_eq_iff.mpr ⟨rfl, b, .slash b, .plain hb⟩
    exact Client.session_congr hendpoint network script calls
  · have hbase : (Config.mk (network.server.origin ++ p) timeout).baseUrl =
        network.server.origin ++ p := rfl
    obtain ⟨names, hparse, hnames⟩ := parse_endpointOf network.server hp hbase q.kind
    refine ⟨_, hparse, fun hlength => ?_⟩
    have hbuilds := builds_of_parse hparse hlength
    exact ⟨hbuilds, ask_isTarget hbuilds hnames⟩

/-- A path with blanks, a tab, a backslash, an accent, dots plain and encoded, and a slash at its
end. -/
private def oddPath : String := "/a b\\\té/%2e%2E/./../ \x7f//"

private theorem oddPath_isPathText : IsPathText oddPath where
  rooted := .inr ⟨"a b\\\té/%2e%2E/./../ \x7f//", rfl⟩
  plain := by decide

private def oddServer : Server := ⟨3000, true⟩

private def oddClient : Client := ⟨⟨oddServer.origin ++ oddPath, none⟩, oddServer⟩

theorem odd_path_reaches_signature :
    IsPathText oddPath ∧
    ∃ r, (oddClient.ask (.signature (.ofFile "/a.ets" 20 28)) []).requests.head? = some r ∧
      QueryKind.signature.IsTarget r.target := by
  obtain ⟨_, _, url, hparse, hsent⟩ := queries_reach_own_endpoint oddServer oddPath
    oddPath_isPathText none (.signature (.ofFile "/a.ets" 20 28))
  have hlength : (Url.parse (oddClient.config.endpointOf .signature)).toOption.all
      (fun url => decide (url.text.length ≤ Url.maxAddress)) = true := by decide +kernel
  have hurl : Url.parse (oddClient.config.endpointOf .signature) = .ok url := hparse
  rw [hurl] at hlength
  exact ⟨oddPath_isPathText, (hsent (of_decide_eq_true hlength)).2 rfl []⟩

end LspProbe
