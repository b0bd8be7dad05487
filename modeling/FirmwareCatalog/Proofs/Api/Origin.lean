/-
**Where requests are sent to.**

A client of a catalog on the web asks one server only.  Whatever it is asked, with whatever arguments,
and whatever names the server itself has put into its lists, every address it asks for has the scheme,
user, host and port of the base address.  The text of such an address starts as that of the base does,
up to the path, and after that there is nothing but a path: no query, no fragment, and no character
that could begin one.  In the path an argument is one segment at most, so a slash in an argument never
separates two.

In the request the login is taken out of the address.  Where the request is sent on to from there is
for the answers to say: they can name any other server.

Main definitions:

* `Url.LeadsTo`, `Request.LeadsTo` — addresses at the server of a base, and requests to it.

Main results:

* `Client.baseUrl?_of_parse` — an address of the web is a base at its own server;
* `BaseUrl.count_below` — an argument makes the path longer by one slash at most;
* `Client.requests_lead` — **every request of a client goes to the server of its base**.
-/
import FirmwareCatalog.Proofs.Api.Redirect
import FirmwareCatalog.Proofs.Url.Web

set_option relaxedAutoImplicit false
set_option autoImplicit false

namespace FirmwareCatalog

variable {σ : Type}

def Url.originChars (u : Url) : List Char := u.scheme ++ ':' :: u.authorityText

/-- The address is one at the server of a base.  It has the scheme of the base, and its user, host and
port; in its text a path follows, of segments that separate nothing, and nothing else. -/
structure Url.LeadsTo (u : Url) (b : BaseUrl) : Prop where
  scheme : u.scheme = b.toUrl.scheme
  authority : ∃ a, b.toUrl.authority = some a ∧ u.authority = some a
  query : u.query = none
  fragment : u.fragment = none
  path : ∃ ss, ss ≠ [] ∧ u.path = .segments ss ∧ ∀ s ∈ ss, Url.IsPlain s
  text : u.renderChars = b.toUrl.originChars ++ u.pathText

/-! ### Bases of the web -/

namespace Client

/-- The base address of an address of the web has its authority, and plain segments. -/
theorem base_of_isWeb {text : String} {b : BaseUrl} (hbase : baseUrl? text = .ok b)
    (hweb : Scheme.isWeb b.scheme = true) :
    (∃ a, b.authority = some a) ∧ ∀ s ∈ b.segments, Url.IsPlain s := by
  obtain ⟨u, hu, hofUrl⟩ := baseUrl?_eq_ok hbase
  obtain ⟨ss, hpath, rfl⟩ := BaseUrl.ofUrl?_eq_some hweb hofUrl
  obtain ⟨a, path, ha, hsegments⟩ := Url.parse_of_isWeb hu hweb
  refine ⟨⟨a, ha⟩, fun s hs => ?_⟩
  rw [hpath, UrlPath.segments.injEq] at hsegments
  subst hsegments
  -- The segments of the base are those of the address, without the empty ones at the end.
  have hmem : s ∈ Url.segmentsAfterHost u.scheme path := by
    have hdrop := List.mem_reverse.1 hs
    exact List.mem_reverse.1 ((List.dropWhile_sublist _).subset hdrop)
  exact Url.isPlain_segmentsAfterHost hweb s hmem

/-- **An address of the web is a base at its own server.** -/
theorem baseUrl?_of_parse {text : String} {u : Url} (hu : Url.parse text = .ok u)
    (hweb : Scheme.isWeb u.scheme = true) :
    ∃ b, baseUrl? text = .ok b ∧ b.toUrl.scheme = u.scheme ∧ b.toUrl.authority = u.authority := by
  obtain ⟨a, path, -, hpath⟩ := Url.parse_of_isWeb hu hweb
  obtain ⟨ss, hbase⟩ : ∃ ss, BaseUrl.ofUrl? u = some ⟨u.scheme, u.authority, u.setOff, ss⟩ := by
    simp only [BaseUrl.ofUrl?, hpath]
    exact ⟨_, rfl⟩
  refine ⟨⟨u.scheme, u.authority, u.setOff, ss⟩, ?_, rfl, rfl⟩
  simp only [baseUrl?, hu, hbase]

end Client

namespace BaseUrl

/-! ### Addresses below a base -/

def start (b : BaseUrl) : List (List Char) := if b.segments.isEmpty then [[]] else b.segments

theorem start_ne_nil (b : BaseUrl) : b.start ≠ [] := by
  rw [start]
  split
  case isTrue => simp
  case isFalse h => simpa using h

theorem isPlain_below {b : BaseUrl} (hweb : Scheme.isWeb b.scheme = true)
    (hplain : ∀ s ∈ b.segments, Url.IsPlain s) (args : List (List Char)) :
    ∀ s ∈ args.foldl (push b.scheme) b.start, Url.IsPlain s := by
  refine isPlain_foldl_push hweb (fun s hs => ?_) args
  rw [start] at hs
  split at hs
  · rw [List.mem_singleton.1 hs]
    exact Url.isPlain_nil
  · exact hplain s hs

/-- **Whatever is placed below a base leads to its server.** -/
theorem below_leadsTo {b : BaseUrl} (hweb : Scheme.isWeb b.scheme = true) {a : Authority}
    (ha : b.authority = some a) (hplain : ∀ s ∈ b.segments, Url.IsPlain s)
    (args : List (List Char)) : (b.below args).LeadsTo b where
  scheme := rfl
  authority := ⟨a, ha, ha⟩
  query := rfl
  fragment := rfl
  path := ⟨_, foldl_push_ne_nil _ b.start_ne_nil args, rfl, isPlain_below hweb hplain args⟩
  text := renderChars_withSegments b _

/-- **An argument makes a path longer by one slash at most.** -/
theorem count_below {b : BaseUrl} (hweb : Scheme.isWeb b.scheme = true)
    (hplain : ∀ s ∈ b.segments, Url.IsPlain s) (args : List (List Char)) (arg : List Char) :
    (b.below (args ++ [arg])).pathText.count '/' ≤ (b.below args).pathText.count '/' + 1 := by
  have hcount (args : List (List Char)) :
      (b.below args).pathText.count '/' = (args.foldl (push b.scheme) b.start).length :=
    UrlPath.count_render (isPlain_below hweb hplain args)
  -- One slash stands before each segment, and placing one more adds one at most.
  rw [hcount, hcount, List.foldl_append]
  exact length_push_le b.scheme _ arg

end BaseUrl

/-! ### All requests -/

/-- The request is one to the server of a base.  It has the scheme, the host and the port of the base,
and beside its address the login that is in the base; the address is without it. -/
structure Request.LeadsTo (r : Request) (b : BaseUrl) : Prop where
  scheme : r.url.scheme = b.toUrl.scheme
  authority : ∃ a, b.toUrl.authority = some a ∧
    r.url.authority = some (if b.toUrl.login?.isSome then a.withoutLogin else a)
  login : r.login = b.toUrl.login?
  query : r.url.query = none
  fragment : r.url.fragment = none

/-- The request for an address at a server is one to that server. -/
theorem Url.LeadsTo.ofUrl {u : Url} {b : BaseUrl} (h : u.LeadsTo b) (userAgent : Option String) :
    (Request.ofUrl u userAgent).LeadsTo b := by
  obtain ⟨a, ha, hu⟩ := h.authority
  have hlogin : u.login? = b.toUrl.login? := by rw [Url.login?, Url.login?, ha, hu]
  refine ⟨?_, ⟨a, ha, ?_⟩, ?_, ?_, ?_⟩
  · rw [Request.url_ofUrl, ← h.scheme]
    split <;> rfl
  · rw [Request.url_ofUrl, hlogin]
    split
    · rw [Url.withoutLogin, hu, Option.map_some]
    · exact hu
  · rw [Request.login_ofUrl, hlogin]
  · rw [Request.url_ofUrl, ← h.query]
    split <;> rfl
  · rw [Request.url_ofUrl, ← h.fragment]
    split <;> rfl

namespace Client

theorem url_leadsTo {text : String} {c : Client} (hbase : baseUrl? text = .ok c.base)
    (hweb : Scheme.isWeb c.base.scheme = true) (e : Endpoint) : (c.url e).LeadsTo c.base := by
  obtain ⟨⟨a, ha⟩, hplain⟩ := base_of_isWeb hbase hweb
  exact BaseUrl.below_leadsTo hweb ha hplain e.segments

theorem exists_of_mem_requests {c : Client} {es : List Endpoint} {r : Request}
    (h : r ∈ c.requests es) : ∃ e, r = c.request e := by
  obtain ⟨e, -, rfl⟩ := List.mem_map.1 (List.mem_filter.1 h).1
  exact ⟨e, rfl⟩

theorem ask_log (c : Client) (q : Question) (s : Session σ) :
    ∃ es, ((c.ask q).run s).2.log = s.log ++ c.requests es := by
  obtain ⟨es, hes⟩ := c.ask_after q s
  exact ⟨es, by rw [hes, Session.log_after]⟩

/-- **Every request of a client goes to the server of its base.**  The address of every endpoint leads
there, and so does the request for it, in which the login is taken out of the address; and each
argument is one segment of the path at most.  What is asked for a question, or for a device of the
search for a build, are requests for endpoints, whatever the replies are.

A site is sent these requests, and after each of them what its answers lead on to, at most ten more,
which may go anywhere.  If no answer leads on, it is sent these requests and nothing else. -/
theorem requests_lead {text : String} {c : Client} (hbase : baseUrl? text = .ok c.base)
    (hweb : Scheme.isWeb c.base.scheme = true) :
    (∀ e : Endpoint, (c.url e).LeadsTo c.base ∧ (c.request e).LeadsTo c.base ∧
      (c.request e).url.pathText = (c.url e).pathText) ∧
    (∀ (args : List (List Char)) (arg : List Char),
      (c.base.below (args ++ [arg])).pathText.count '/' ≤
        (c.base.below args).pathText.count '/' + 1) ∧
    (∀ (q : Question) (s : Session σ), ∃ es,
      ((c.ask q).run s).2.log = s.log ++ c.requests es) ∧
    (∀ (identifier build : String) (s : Session σ), ∃ es,
      (c.scanDevice identifier build s).2.log = s.log ++ c.requests es) ∧
    ∀ (site : Site σ) (lead : Redirection) (s : Session (Wire σ)), s.server = site.server lead →
      (∀ q : Question, ∃ es xs, s.Sends lead ((c.ask q).run s).2 (c.requests es) xs) ∧
      ∀ identifier build : String, ∃ es xs,
        s.Sends lead (c.scanDevice identifier build s).2 (c.requests es) xs := by
  have hleads (e : Endpoint) := url_leadsTo hbase hweb e
  refine ⟨fun e => ⟨hleads e, (hleads e).ofUrl c.userAgent, Request.pathText_ofUrl _ _⟩,
    BaseUrl.count_below hweb (base_of_isWeb hbase hweb).2, c.ask_log, ?_, ?_⟩
  · intro identifier build s
    obtain ⟨es, hes⟩ := c.scanDevice_after identifier build s
    exact ⟨es, by rw [hes, Session.log_after]⟩
  · intro site lead s hs
    constructor
    · intro q
      obtain ⟨es, hes⟩ := c.ask_after q s
      exact ⟨es, by rw [hes]; exact Session.exists_sends hs _⟩
    · intro identifier build
      obtain ⟨es, hes⟩ := c.scanDevice_after identifier build s
      exact ⟨es, by rw [hes]; exact Session.exists_sends hs _⟩

/-- The name of a build that looks like an address of its own stays one segment, at the server of the
base, while the two dots before it take away the fixed word.  The login of the base is sent beside the
address. -/
theorem requests_lead_signs :
    ∃ c : Client, baseUrl? "http://user:pw@[::1]:8080/v4//?q#f" = .ok c.base ∧
      Scheme.isWeb c.base.scheme = true ∧
      (c.url (.firmware "..\t" "//x@y:1/?q#f\\")).LeadsTo c.base ∧
      (c.request (.firmware "..\t" "//x@y:1/?q#f\\")).url.render =
        "http://[::1]:8080/v4//%2F%2Fx@y:1%2F%3Fq%23f%5C" ∧
      (c.request (.firmware "..\t" "//x@y:1/?q#f\\")).login = some ⟨"user", some "pw"⟩ := by
  let a : Authority :=
    ⟨"user".toList, "pw".toList, some (.ipv6 ⟨[0, 0, 0, 0, 0, 0, 0, 1], rfl⟩), some 8080⟩
  have hbase : baseUrl? "http://user:pw@[::1]:8080/v4//?q#f" =
      .ok ⟨Scheme.http, some a, false, [['v', '4']]⟩ := by rfl
  refine ⟨⟨⟨Scheme.http, some a, false, [['v', '4']]⟩, none⟩, hbase, rfl, ?_, by decide, by decide⟩
  exact ((requests_lead (σ := Unit) hbase rfl).1 _).1

def goTo (r : Request) (place : String) : Option (Except ExchangeFault Request) :=
  (Url.parse place).toOption.map fun u => .ok ⟨u, none, r.userAgent⟩

def moved : Site Unit where
  respond _ r := (if r.url.hostText? = some "[::1]".toList
    then .answer ⟨302⟩ (some "http://[::2]/") [] else .answer .success none [0x5B, 0x5D], ())

/-- The login of a base is not in the requests below it, and where a host has moved, requests go to
another one. -/
theorem requests_stray :
    ∃ c : Client, baseUrl? "http://user:pw@[::1]:8080/v4" = .ok c.base ∧
      Scheme.isWeb c.base.scheme = true ∧
      ((c.ask .releases).run (.start (moved.server goTo) ⟨(), []⟩)).2.log = [c.request .releases] ∧
      (c.request .releases).url.authority ≠ c.base.toUrl.authority ∧
      ((c.ask .releases).run (.start (moved.server goTo) ⟨(), []⟩)).2.state.sent.map
        (fun x => x.1.url.render) = ["http://[::1]:8080/v4/releases", "http://[::2]/"] := by
  let a : Authority :=
    ⟨"user".toList, "pw".toList, some (.ipv6 ⟨[0, 0, 0, 0, 0, 0, 0, 1], rfl⟩), some 8080⟩
  exact ⟨⟨⟨Scheme.http, some a, false, [['v', '4']]⟩, none⟩, by rfl, rfl, by rfl, by decide,
    by rfl⟩

end Client

end FirmwareCatalog
