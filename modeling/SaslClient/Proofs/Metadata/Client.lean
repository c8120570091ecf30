import SaslClient.Except
import SaslClient.Metadata.Client
import SaslClient.Proofs.Text.Trim

/-!
# What a metadata client asks for

A fetch goes one of four ways (`Goes`), and the endpoint and the network decide which. A container's
key document is asked for at once. An instance's listing is asked for first, and only a listing that
names a role leads to another request. Everything about a fetch is read off its way. The addresses
are those that the requests wrote down (`run_getBody_bind`).

Main results:

* `goes_fetch`: every fetch goes one of the four ways.
* `stem_iff`, `slashed_iff`: how the configured bases become addresses.
* `namesRole_iff`: the role that a listing names.
* `discovery`: which addresses are asked for, what a fetch gives, and which slashes do not matter.
-/

namespace SaslClient

/-- A body is served at an address: it arrives whole in a successful answer. -/
def Http.Network.Serves (network : Http.Network) (address body : String) : Prop :=
  ∃ status : Http.Status, 200 ≤ status.code ∧ status.code < 300 ∧
    network address = .answered status (.text body)

theorem Http.Outcome.body_eq_ok_iff {outcome : Http.Outcome} {s : String} :
    outcome.body = .ok s ↔
      ∃ status : Http.Status, 200 ≤ status.code ∧ status.code < 300 ∧
        outcome = .answered status (.text s) := by
  constructor
  · intro h
    unfold Http.Outcome.body at h
    split at h <;> try cases h
    next status body =>
      split at h
      next hsuccess =>
        obtain ⟨hmin, hmax⟩ : 200 ≤ status.code ∧ status.code < 300 := by
          simpa [Http.Status.isSuccess] using hsuccess
        cases body <;> cases h
        exact ⟨status, hmin, hmax, rfl⟩
      next => cases h
  · rintro ⟨status, hmin, hmax, rfl⟩
    have hsuccess : status.isSuccess = true := by simp [Http.Status.isSuccess, hmin, hmax]
    simp [Http.Outcome.body, hsuccess]

namespace Metadata.Client

variable {client : Client} {network : Http.Network} {address : String}

/-! ## Single requests -/

theorem bodyAt_eq_ok_iff {body : String} :
    bodyAt network address = .ok body ↔ network.Serves address body := by
  rw [bodyAt, Except.mapError_eq_ok_iff, Http.Outcome.body_eq_ok_iff]
  rfl

theorem bodyAt_eq_error {e : AuthError} (h : bodyAt network address = .error e) :
    ∃ failure, e = .credentialSource address (.http failure) := by
  obtain ⟨failure, -, rfl⟩ := Except.mapError_eq_error_iff.mp h
  exact ⟨failure, rfl⟩

/-- The key document that is served at an address, or why there is none. -/
def answerAt (network : Http.Network) (address : String) : Except AuthError Answer :=
  (bodyAt network address).map fun body => ⟨address, body⟩

theorem answerAt_eq_ok_iff {answer : Answer} :
    answerAt network address = .ok answer ↔
      answer.endpoint = address ∧ network.Serves address answer.body := by
  obtain ⟨endpoint, body⟩ := answer
  rw [answerAt, Except.map_eq_ok_iff]
  simp only [bodyAt_eq_ok_iff, Answer.mk.injEq]
  constructor
  · rintro ⟨_, hserves, rfl, rfl⟩
    exact ⟨rfl, hserves⟩
  · rintro ⟨rfl, hserves⟩
    exact ⟨body, hserves, rfl, rfl⟩

theorem answerAt_eq_error {e : AuthError} (h : answerAt network address = .error e) :
    ∃ failure, e = .credentialSource address (.http failure) :=
  bodyAt_eq_error (Except.map_eq_error_iff.mp h)

/-- What is served at an address is one body. -/
theorem eq_of_serves {body body' : String} (h : network.Serves address body)
    (h' : network.Serves address body') : body = body' :=
  Except.ok.inj ((bodyAt_eq_ok_iff.mpr h).symm.trans (bodyAt_eq_ok_iff.mpr h'))

/-! ## Requests in a row -/

/-- Asking for a body writes its address down, and what follows goes on with the body. -/
theorem run_getBody_bind {α : Type} (network : Http.Network) (address : String)
    (next : String → Asking α) (asked : List String) :
    (getBody network address >>= next).run.run asked =
      match bodyAt network address with
      | .ok body => (next body).run.run (asked ++ [address])
      | .error e => (.error e, asked ++ [address]) := by
  have hbody : (getBody network address).run.run asked =
      (bodyAt network address, asked ++ [address]) := rfl
  rw [ExceptT.run_bind, StateT.run_bind, hbody]
  cases bodyAt network address <;> rfl

theorem run_getAnswer (network : Http.Network) (address : String) (asked : List String) :
    (getAnswer network address).run.run asked = (answerAt network address, asked ++ [address]) := by
  unfold getAnswer answerAt
  rw [run_getBody_bind]
  cases bodyAt network address <;> rfl

/-! ## Bases -/

/-- A base is its stem and slashes behind it, with none left at the end of the stem. -/
structure Stem (base stem : String) : Prop where
  slashes : ∃ n, base = stem ++ String.ofList (List.replicate n '/')
  bare : stem.toList.getLast? ≠ some '/'

/-- A base with a slash behind it unless it ends with one. -/
structure Slashed (base address : String) : Prop where
  closed : address.toList.getLast? = some '/'
  added : address = base ∨ base.toList.getLast? ≠ some '/' ∧ address = base ++ "/"

theorem withoutSlashes_append (base : String) (n : Nat) :
    withoutSlashes (base ++ String.ofList (List.replicate n '/')) = withoutSlashes base := by
  have hslashes : ∀ c ∈ List.replicate n '/', (c == '/') = true := by
    intro c hc
    rw [List.eq_of_mem_replicate hc]
    rfl
  unfold withoutSlashes
  rw [String.toList_append, String.toList_ofList, List.reverse_append, List.reverse_replicate,
    List.dropWhile_append_of_pos hslashes]

theorem withoutSlashes_of_bare {stem : String} (h : stem.toList.getLast? ≠ some '/') :
    withoutSlashes stem = stem := by
  have hstays : stem.toList.reverse.dropWhile (· == '/') = stem.toList.reverse := by
    rw [← List.head?_reverse] at h
    cases hreverse : stem.toList.reverse with
    | nil => rfl
    | cons c cs =>
      rw [hreverse, List.head?_cons] at h
      exact List.dropWhile_cons_of_neg (by simpa using h)
  rw [withoutSlashes, hstays, List.reverse_reverse, String.ofList_toList]

theorem stem_withoutSlashes (base : String) : Stem base (withoutSlashes base) := by
  constructor
  · have hslashes : base.toList.reverse.takeWhile (· == '/') =
        List.replicate (base.toList.reverse.takeWhile (· == '/')).length '/' := by
      refine List.eq_replicate_iff.mpr ⟨rfl, fun c hc => ?_⟩
      simpa using List.mem_takeWhile_imp hc
    refine ⟨(base.toList.reverse.takeWhile (· == '/')).length, String.toList_inj.mp ?_⟩
    rw [withoutSlashes, String.toList_append, String.toList_ofList, String.toList_ofList,
      ← List.reverse_replicate, ← hslashes, ← List.reverse_append,
      List.takeWhile_append_dropWhile, List.reverse_reverse]
  · intro hlast
    rw [withoutSlashes, String.toList_ofList, List.getLast?_reverse] at hlast
    have hhead := List.head?_dropWhile_not (· == '/') base.toList.reverse
    rw [hlast] at hhead
    cases hhead

/-- A base has exactly one stem. -/
theorem stem_iff {base stem : String} : Stem base stem ↔ withoutSlashes base = stem := by
  constructor
  · rintro ⟨⟨n, rfl⟩, hbare⟩
    rw [withoutSlashes_append, withoutSlashes_of_bare hbare]
  · rintro rfl
    exact stem_withoutSlashes base

theorem getLast?_append_slash (base : String) : (base ++ "/").toList.getLast? = some '/' := by
  rw [String.toList_append]
  simp

/-- There is exactly one way to put a slash behind a base. -/
theorem slashed_iff {base address : String} : Slashed base address ↔ withSlash base = address := by
  unfold withSlash
  split
  next hends =>
    constructor
    · rintro ⟨-, rfl | ⟨hnot, -⟩⟩
      · rfl
      · exact absurd hends hnot
    · rintro rfl
      exact ⟨hends, .inl rfl⟩
  next hends =>
    constructor
    · rintro ⟨hlast, rfl | ⟨-, rfl⟩⟩
      · exact absurd hlast hends
      · rfl
    · rintro rfl
      exact ⟨getLast?_append_slash base, .inr ⟨hends, rfl⟩⟩

theorem withSlash_append_slash {base : String} (h : base.toList.getLast? ≠ some '/') :
    withSlash (base ++ "/") = withSlash base := by
  unfold withSlash
  rw [if_pos (getLast?_append_slash base), if_neg h]

/-! ## Listings -/

/-- The first line of a listing without the blanks around it is a role. -/
structure NamesRole (listing role : String) : Prop where
  line : ∃ line, Text.FirstLine listing.toList line ∧ Text.Trims line role.toList
  nonempty : role ≠ ""

theorem namesRole_iff {listing role : String} :
    NamesRole listing role ↔ roleOf listing = role ∧ (roleOf listing).isEmpty = false := by
  have hrole : (∃ line, Text.FirstLine listing.toList line ∧ Text.Trims line role.toList) ↔
      roleOf listing = role := by
    simp only [Text.firstLine_iff, Text.trims_iff, exists_eq_left', roleOf]
    rw [← String.toList_inj, String.toList_ofList]
  constructor
  · rintro ⟨hline, hnonempty⟩
    obtain rfl := hrole.mp hline
    exact ⟨rfl, by simpa using hnonempty⟩
  · rintro ⟨rfl, hnonempty⟩
    exact ⟨hrole.mpr rfl, by simpa using hnonempty⟩

/-- A listing names a role exactly if its first line has a character that is no blank. -/
theorem exists_namesRole_iff {listing : String} :
    (∃ role, NamesRole listing role) ↔
      ∃ line, Text.FirstLine listing.toList line ∧ ∃ c ∈ line, Text.isBlank c = false := by
  simp only [namesRole_iff, Text.firstLine_iff, exists_eq_left', roleOf]
  rw [Bool.eq_false_iff, ne_eq, String.isEmpty_iff, ← String.toList_inj, String.toList_ofList]
  simp [Text.trimChars_eq_nil_iff]

/-- A role is on one line. -/
theorem NamesRole.newline_notMem {listing role : String} (h : NamesRole listing role) :
    '\n' ∉ role.toList := by
  obtain ⟨line, hline, htrims⟩ := h.line
  exact fun hmem => hline.unbroken (htrims.mem hmem)

/-! ## Fetches -/

/-- The ways of a fetch: to a container's key document, to a listing that is not served, to a
listing that names no role, or to the key document of the role that a listing names. -/
inductive Goes (client : Client) (network : Http.Network) : Fetch → Prop
  | container {uri : String} (family : client.endpoint = .container uri) :
    Goes client network
      ⟨answerAt network (client.containerAddress uri), [client.containerAddress uri]⟩
  | unlisted {e : AuthError} (family : client.endpoint = .instanceRole)
    (fault : bodyAt network client.instanceBase = .error e) :
    Goes client network ⟨.error e, [client.instanceBase]⟩
  | noRole {listing : String} (family : client.endpoint = .instanceRole)
    (listed : network.Serves client.instanceBase listing)
    (fault : ∀ role, ¬ NamesRole listing role) :
    Goes client network
      ⟨.error (.credentialSource client.instanceBase .noRole), [client.instanceBase]⟩
  | role {listing role : String} (family : client.endpoint = .instanceRole)
    (listed : network.Serves client.instanceBase listing) (named : NamesRole listing role) :
    Goes client network
      ⟨answerAt network (client.instanceBase ++ role),
        [client.instanceBase, client.instanceBase ++ role]⟩

/-- Every fetch goes one of these ways: what it asked for is what its requests wrote down. -/
theorem goes_fetch (client : Client) (network : Http.Network) :
    Goes client network (client.fetch network) := by
  unfold fetch ask
  cases hendpoint : client.endpoint with
  | container uri =>
    simp only [run_getAnswer]
    exact .container hendpoint
  | instanceRole =>
    simp only [run_getBody_bind]
    cases hlisting : bodyAt network client.instanceBase with
    | error e => exact .unlisted hendpoint hlisting
    | ok listing =>
      have hserves := bodyAt_eq_ok_iff.mp hlisting
      simp only
      cases hrole : (roleOf listing).isEmpty with
      | true =>
        refine .noRole hendpoint hserves fun role hnames => ?_
        rw [(namesRole_iff.mp hnames).2] at hrole
        cases hrole
      | false =>
        simp only [Bool.false_eq_true, if_false, run_getAnswer]
        exact .role hendpoint hserves (namesRole_iff.mpr ⟨rfl, hrole⟩)

/-- Whatever the network does, a fetch that fails reports the address that was asked for last: there
is no body at it, or no role. -/
theorem fetch_eq_error {e : AuthError} (h : (client.fetch network).result = .error e) :
    ∃ address fault, (client.fetch network).asked.getLast? = some address ∧
      e = .credentialSource address fault := by
  have hgoes := goes_fetch client network
  generalize client.fetch network = fetch at h hgoes ⊢
  cases hgoes with
  | container family =>
    obtain ⟨failure, rfl⟩ := answerAt_eq_error h
    exact ⟨_, _, rfl, rfl⟩
  | unlisted family fault =>
    cases h
    obtain ⟨failure, rfl⟩ := bodyAt_eq_error fault
    exact ⟨_, _, rfl, rfl⟩
  | noRole family listed fault =>
    cases h
    exact ⟨_, _, rfl, rfl⟩
  | role family listed named =>
    obtain ⟨failure, rfl⟩ := answerAt_eq_error h
    exact ⟨_, _, rfl, rfl⟩

/-- Something is asked for. -/
theorem exists_getLast?_asked (client : Client) (network : Http.Network) :
    ∃ last, (client.fetch network).asked.getLast? = some last := by
  have hgoes := goes_fetch client network
  generalize client.fetch network = fetch at hgoes ⊢
  cases hgoes <;> exact ⟨_, rfl⟩

/-- A fetch gives what is served at the address that was asked for last, unless that is the address
of a listing. -/
theorem fetch_eq_ok_iff {last : String} (h : (client.fetch network).asked.getLast? = some last)
    {answer : Answer} :
    (client.fetch network).result = .ok answer ↔
      (client.endpoint = .instanceRole → (client.fetch network).asked.length = 2) ∧
        answer.endpoint = last ∧ network.Serves last answer.body := by
  have hgoes := goes_fetch client network
  generalize client.fetch network = fetch at h hgoes ⊢
  cases hgoes with
  | container family =>
    obtain rfl := Option.some.inj h
    rw [answerAt_eq_ok_iff, family]
    simp
  | unlisted family fault => simp [family]
  | noRole family listed fault => simp [family]
  | role family listed named =>
    obtain rfl := Option.some.inj h
    rw [answerAt_eq_ok_iff]
    simp

/-- A container's key document is the only thing that is asked for. -/
theorem asked_of_container {uri : String} (h : client.endpoint = .container uri) :
    (client.fetch network).asked = [client.containerAddress uri] := by
  unfold fetch ask
  rw [h]
  simp only [run_getAnswer]
  rfl

/-- For an instance the listing is asked for, and then at most the address of a role behind it. -/
theorem asked_of_instance (h : client.endpoint = .instanceRole) :
    (client.fetch network).asked = [client.instanceBase] ∨
      ∃ listing role, network.Serves client.instanceBase listing ∧ NamesRole listing role ∧
        (client.fetch network).asked = [client.instanceBase, client.instanceBase ++ role] := by
  have hgoes := goes_fetch client network
  generalize client.fetch network = fetch at hgoes ⊢
  cases hgoes with
  | container family =>
    rw [family] at h
    cases h
  | unlisted family fault => exact .inl rfl
  | noRole family listed fault => exact .inl rfl
  | role family listed named => exact .inr ⟨_, _, listed, named, rfl⟩

/-- The second request for an instance is made exactly if the listing is served and its first line
has a character that is no blank. -/
theorem length_asked_eq_two_iff (h : client.endpoint = .instanceRole) :
    (client.fetch network).asked.length = 2 ↔
      ∃ listing line, network.Serves client.instanceBase listing ∧
        Text.FirstLine listing.toList line ∧ ∃ c ∈ line, Text.isBlank c = false := by
  have hnames : (∃ listing line, network.Serves client.instanceBase listing ∧
      Text.FirstLine listing.toList line ∧ ∃ c ∈ line, Text.isBlank c = false) ↔
      ∃ listing, network.Serves client.instanceBase listing ∧ ∃ role, NamesRole listing role := by
    simp only [exists_and_left, exists_namesRole_iff]
  rw [hnames]
  have hgoes := goes_fetch client network
  generalize client.fetch network = fetch at hgoes ⊢
  cases hgoes with
  | container family =>
    rw [family] at h
    cases h
  | unlisted family fault =>
    simp only [← bodyAt_eq_ok_iff, fault]
    simp
  | noRole family listed fault =>
    have hnot : ¬ ∃ listing, network.Serves client.instanceBase listing ∧
        ∃ role, NamesRole listing role := by
      rintro ⟨listing, hserves, role, hrole⟩
      obtain rfl := eq_of_serves listed hserves
      exact fault role hrole
    simpa using hnot
  | role family listed named => exact iff_of_true rfl ⟨_, listed, _, named⟩

/-- No address is asked for twice. -/
theorem nodup_asked (client : Client) (network : Http.Network) :
    (client.fetch network).asked.Nodup := by
  have hgoes := goes_fetch client network
  generalize client.fetch network = fetch at hgoes ⊢
  cases hgoes with
  | container family => exact by simp
  | unlisted family fault => exact by simp
  | noRole family listed fault => exact by simp
  | @role listing role family listed named =>
    -- a role is not empty, so its address is longer than the listing's
    have hne : client.instanceBase ≠ client.instanceBase ++ role := by
      intro heq
      have hlength := congrArg (·.toList.length) heq
      simp only [String.toList_append, List.length_append] at hlength
      refine named.nonempty (String.toList_inj.mp (List.eq_nil_of_length_eq_zero ?_))
      omega
    simpa using hne

/-! ## Discovery -/

/-- **Discovery.** For all settings, both families of endpoints and every network:

* A container's key document is asked for at the stem of the base and the path, with one slash put
  between them if the path has none in front.
* An instance's listing is asked for at the base with a slash behind it. There is another request
  exactly if the listing is served and its first line is not blank: for that line without the blanks
  around it, behind the base.
* No address is asked for twice. The result is the body that is served at the address asked for
  last, and that address; every error is one of the source and names that address.
* Slashes behind the base of containers, and one behind a base of instances that ends with none,
  change nothing. -/
theorem discovery (settings : Settings) (endpoint : Endpoint) (network : Http.Network) :
    let fetch := (ofSettings settings endpoint).fetch network
    (∀ uri, endpoint = .container uri →
      ∃ stem, Stem settings.containerBase stem ∧
        fetch.asked = [if uri.toList.head? = some '/' then stem ++ uri else stem ++ "/" ++ uri]) ∧
    (endpoint = .instanceRole →
      ∃ base, Slashed settings.instanceBase base ∧
        (fetch.asked = [base] ∨
          ∃ listing role, network.Serves base listing ∧ NamesRole listing role ∧
            '\n' ∉ role.toList ∧ fetch.asked = [base, base ++ role]) ∧
        (fetch.asked.length = 2 ↔
          ∃ listing line, network.Serves base listing ∧ Text.FirstLine listing.toList line ∧
            ∃ c ∈ line, Text.isBlank c = false)) ∧
    fetch.asked.Nodup ∧
    (∃ last, fetch.asked.getLast? = some last ∧
      (∀ answer, fetch.result = .ok answer ↔
        (endpoint = .instanceRole → fetch.asked.length = 2) ∧ answer.endpoint = last ∧
          network.Serves last answer.body) ∧
      ∀ e, fetch.result = .error e → ∃ fault, e = .credentialSource last fault) ∧
    (∀ n, (ofSettings
        { settings with
          containerBase := settings.containerBase ++ String.ofList (List.replicate n '/') }
        endpoint).fetch network = fetch) ∧
    (settings.instanceBase.toList.getLast? ≠ some '/' →
      (ofSettings { settings with instanceBase := settings.instanceBase ++ "/" } endpoint).fetch
        network = fetch) := by
  intro fetch
  refine ⟨?_, ?_, nodup_asked _ _, ?_, ?_, ?_⟩
  · rintro uri rfl
    exact ⟨_, stem_iff.mpr rfl, asked_of_container rfl⟩
  · rintro rfl
    refine ⟨_, slashed_iff.mpr rfl, ?_, length_asked_eq_two_iff rfl⟩
    have hrole : (ofSettings settings .instanceRole).endpoint = .instanceRole := rfl
    refine (asked_of_instance hrole).imp_right ?_
    rintro ⟨listing, role, hserves, hnames, htwo⟩
    exact ⟨listing, role, hserves, hnames, hnames.newline_notMem, htwo⟩
  · obtain ⟨last, hlast⟩ := exists_getLast?_asked (ofSettings settings endpoint) network
    refine ⟨last, hlast, fun answer => fetch_eq_ok_iff hlast, ?_⟩
    intro e he
    obtain ⟨address, fault, haddress, rfl⟩ := fetch_eq_error he
    obtain rfl := Option.some.inj (hlast.symm.trans haddress)
    exact ⟨fault, rfl⟩
  · intro n
    have hclient : ofSettings
        { settings with
          containerBase := settings.containerBase ++ String.ofList (List.replicate n '/') }
        endpoint = ofSettings settings endpoint := by
      unfold ofSettings
      rw [withoutSlashes_append]
    rw [hclient]
  · intro hbare
    have hclient : ofSettings { settings with instanceBase := settings.instanceBase ++ "/" }
        endpoint = ofSettings settings endpoint := by
      unfold ofSettings
      rw [withSlash_append_slash hbare]
    rw [hclient]

end Metadata.Client

end SaslClient
