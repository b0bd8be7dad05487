/-
**When the default settings take the place of the file.**

Settings that cannot be loaded are the default ones, whatever the reason is.  A file whose values
are of the kinds that the choices take is never the reason.  Then everything depends on the
environment, and on the environment alone: if the variables by themselves can be loaded, then so
they can together with the file, and the file keeps every choice that it sets and no variable
names.  If they cannot, the file does not count at all, and what it says is replaced by the
defaults.

A variable can name a choice, or give a table of choices, or give something else in place of the
table.  In the last case it names all of them, for nothing is left of the table below.

Main definitions:

* `Toml.Table.IsWellTyped` — documents with values of the kinds that choices take;
* `Datum.Touches`, `Environment.Names` — which choices a layer, or the environment, names;
* `Settings.KeepsFile` — settings that have the values of a document.

Main results:

* `Extract.field_covering_ok_iff` — where a field is taken from;
* `Settings.ofLayers_covering_ok` — **what is below the variables does not decide whether they can
  be loaded**;
* `Settings.loadOrDefault_wellTyped` — **when the file is kept**, and
  `Settings.loadOrDefault_drops_file` — a file that is dropped for the sake of a variable.
-/
import FirmwareCatalog.Proofs.Settings.Saved

set_option relaxedAutoImplicit false
set_option autoImplicit false

namespace FirmwareCatalog

/-! ### What is named -/

/-- A document that has a table for the choices, if it says anything about them, with values of the
kinds that they take. -/
structure Toml.Table.IsWellTyped (t : Toml.Table) : Prop where
  table : t.HasChoices
  text : ∀ name ∈ ["base_url", "user_agent", "ca_cert"], ∀ v, t.choice? name = some v →
    ∃ s, v = .string s
  number : ∀ v, t.choice? "timeout" = some v → ∃ n : UInt64, v = .integer n.toNat

/-- A layer names a choice: it has a value for it, or something else than a table of choices. -/
def Datum.Touches (d : Datum) (name : String) : Prop :=
  ∃ v, d.get? "api" = some v ∧
    ∀ o choices, v = .table o choices → (choices.lookup name).isSome = true

/-- A variable of the environment names a choice. -/
def Environment.Names (e : Environment) (name : String) : Prop :=
  ∃ v ∈ e.entries, ∃ d, setting? v = some d ∧ d.Touches name

namespace Datum

theorem exists_table_covering (o : Origin) (entries : List (String × Datum)) (w : Datum) :
    ∃ entries', (table o entries).covering w = .table o entries' := by
  cases w with
  | table p below => exact ⟨_, rfl⟩
  | _ => exact ⟨entries, rfl⟩

/-- Unless both are tables, nothing is left of the lower one. -/
theorem covering_of_not_tables {v w : Datum}
    (h : ¬ ((∃ o entries, v = .table o entries) ∧ ∃ p below, w = .table p below)) :
    v.covering w = v := by
  cases v with
  | scalar o x => cases w <;> rfl
  | list o items => cases w <;> rfl
  | table o entries =>
      cases w with
      | scalar p x => rfl
      | list p items => rfl
      | table p below => exact absurd ⟨⟨o, entries, rfl⟩, p, below, rfl⟩ h

/-- What names a choice in the place of the choices, laid over something else, does so by itself, or
that does. -/
theorem naming_of_covering {v w : Datum} {name : String}
    (h : ∀ o choices, v.covering w = .table o choices → (choices.lookup name).isSome = true) :
    (∀ o choices, v = .table o choices → (choices.lookup name).isSome = true) ∨
      ∀ o choices, w = .table o choices → (choices.lookup name).isSome = true := by
  by_cases htables : (∃ o entries, v = .table o entries) ∧ ∃ p below, w = .table p below
  · obtain ⟨⟨o, choices, rfl⟩, p, under, rfl⟩ := htables
    obtain ⟨entries, hentries⟩ := exists_table_covering o choices (.table p under)
    have hname := h o entries hentries
    have hcover := get?_covering o p choices under name
    rw [hentries, get?] at hcover
    rw [hcover] at hname
    cases hchoice : choices.lookup name with
    | none =>
        rw [hchoice] at hname
        refine .inr fun o' under' hsame => ?_
        cases hsame
        exact hname
    | some x =>
        refine .inl fun o' choices' hsame => ?_
        cases hsame
        rw [hchoice]
        rfl
  · rw [covering_of_not_tables htables] at h
    exact .inl h

/-- Two layers name what one of them does. -/
theorem Touches.of_covering {upper lower : Datum} {name : String}
    (h : (upper.covering lower).Touches name) : upper.Touches name ∨ lower.Touches name := by
  obtain ⟨v, hv, hname⟩ := h
  by_cases htables : (∃ o entries, upper = .table o entries) ∧ ∃ p below, lower = .table p below
  · obtain ⟨⟨o, entries, rfl⟩, p, below, rfl⟩ := htables
    rw [get?_api_covering] at hv
    cases hfound : entries.lookup "api" with
    | none =>
        rw [hfound] at hv
        exact .inr ⟨v, hv, hname⟩
    | some w =>
        rw [hfound] at hv
        cases hv
        cases hunder : below.lookup "api" with
        | none =>
            rw [coverEntry, hunder] at hname
            exact .inl ⟨w, hfound, hname⟩
        | some x =>
            rw [coverEntry, hunder] at hname
            exact (naming_of_covering hname).imp (fun h => ⟨w, hfound, h⟩) fun h => ⟨x, hunder, h⟩
  · rw [covering_of_not_tables htables] at hv
    exact .inl ⟨v, hv, hname⟩

/-- Layers laid over one another name what one of them does. -/
theorem Touches.of_foldl {name : String} (layers : List Datum) :
    ∀ {below : Datum}, (layers.foldl (fun below v => v.covering below) below).Touches name →
      below.Touches name ∨ ∃ d ∈ layers, d.Touches name := by
  induction layers with
  | nil =>
      intro below h
      exact .inl h
  | cons d layers ih =>
      intro below h
      rcases ih h with hstep | ⟨x, hx, hname⟩
      · rcases hstep.of_covering with hd | hbelow
        · exact .inr ⟨d, List.mem_cons_self, hd⟩
        · exact .inl hbelow
      · exact .inr ⟨x, List.mem_cons_of_mem d hx, hname⟩

end Datum

namespace Environment

variable {e : Environment}

/-- **What the settings of an environment name, some variable names.** -/
theorem names_of_touches {name : String} (h : e.layer.Touches name) : e.Names name := by
  rcases Datum.Touches.of_foldl _ h with ⟨v, hv, -⟩ | ⟨d, hd, hname⟩
  · cases hv
  · obtain ⟨v, hv, hsetting⟩ := List.mem_filterMap.1 hd
    exact ⟨v, hv, d, hsetting, hname⟩

theorem exists_table_setting {v : String × String} {d : Datum} (h : setting? v = some d) :
    ∃ entries, d = .table .environment entries := by
  obtain ⟨keys, hkeys, rfl⟩ := Option.map_eq_some_iff.1 h
  obtain ⟨key, rest, rfl⟩ := List.exists_cons_of_ne_nil (keys?_ne_nil hkeys)
  exact ⟨_, rfl⟩

/-- So are the settings of an environment. -/
theorem exists_table_layer (e : Environment) :
    ∃ entries, e.layer = .table .environment entries := by
  have hfold (layers : List Datum)
      (hlayers : ∀ d ∈ layers, ∃ entries, d = .table .environment entries) :
      ∀ {below : Datum}, (∃ entries, below = .table .environment entries) →
        ∃ entries, layers.foldl (fun below v => v.covering below) below =
          .table .environment entries := by
    induction layers with
    | nil =>
        intro below h
        exact h
    | cons d layers ih =>
        intro below _
        obtain ⟨entries, rfl⟩ := hlayers d List.mem_cons_self
        exact ih (fun x hx => hlayers x (List.mem_cons_of_mem _ hx))
          (Datum.exists_table_covering .environment entries below)
  refine hfold _ (fun d hd => ?_) ⟨[], rfl⟩
  obtain ⟨v, -, hsetting⟩ := List.mem_filterMap.1 hd
  exact exists_table_setting hsetting

end Environment

/-! ### Fields over one another -/

namespace Extract

open Datum (scalar?)

variable {α : Type}

/-- Whether a value is taken, and as what, shows in what it holds. -/
def IsShallow (take : List String → Datum → Except LayerFault α) : Prop :=
  ∀ keys d d' a, d.scalar? = d'.scalar? → take keys d = .ok a → take keys d' = .ok a

theorem isShallow_text (expected : Expected) : IsShallow (text expected) := by
  intro keys d d' a h hd
  rw [text_eq_ok_iff] at hd ⊢
  rwa [← Datum.text?_congr h]

theorem isShallow_path : IsShallow path := by
  intro keys d d' a h hd
  rw [path_eq_ok_iff] at hd ⊢
  rwa [← Datum.text?_congr h]

theorem isShallow_unsigned64 : IsShallow unsigned64 := by
  intro keys d d' a h hd
  cases d with
  | scalar o v =>
      cases d' with
      | scalar o' v' =>
          cases h
          cases v with
          | unsigned n => exact hd
          | signed n =>
              by_cases hneg : n < 0
              · simp only [unsigned64, if_pos hneg, reduceCtorEq] at hd
              · simp only [unsigned64, if_neg hneg] at hd ⊢
                exact hd
          | _ => cases hd
      | _ => cases h
  | _ => cases hd

theorem isShallow_optional {take : List String → Datum → Except LayerFault α}
    (htake : IsShallow take) : IsShallow (optional take) := by
  intro keys d d' a h hd
  by_cases hunset : d.scalar? = some .unset
  · have hnone {x : Datum} (hx : x.scalar? = some .unset) : optional take keys x = .ok none := by
      cases x with
      | scalar o v =>
          cases hx
          rfl
      | _ => cases hx
    rw [hnone hunset] at hd
    rw [hnone (h ▸ hunset)]
    exact hd
  · have hgiven {x : Datum} (hx : x.scalar? ≠ some .unset) :
        optional take keys x = (take keys x).map some := by
      unfold optional
      split
      · exact absurd rfl hx
      · rfl
    rw [hgiven hunset] at hd
    rw [hgiven (h ▸ hunset)]
    obtain ⟨x, hx, hsome⟩ := map_eq_ok_iff.1 hd
    exact map_eq_ok_iff.2 ⟨x, htake keys d d' x h hx, hsome⟩

/-- **A field of one table over another is that of the upper one, or else that of the lower one.**
-/
theorem field_covering_ok_iff {o p : Origin} {upper lower entries : List (String × Datum)}
    {keys : List String} {key : String} {own a : α}
    {take : List String → Datum → Except LayerFault α} (htake : IsShallow take)
    (hcover : (Datum.table o upper).covering (.table p lower) = .table o entries) :
    field entries keys key own take = .ok a ↔
      (∃ d, upper.lookup key = some d ∧ take (keys ++ [key]) d = .ok a) ∨
      upper.lookup key = none ∧ field lower keys key own take = .ok a := by
  have hget := Datum.get?_covering o p upper lower key
  rw [hcover, Datum.get?] at hget
  rw [field, hget]
  cases hupper : upper.lookup key with
  | none => simp [field]
  | some d =>
      have hshown := Datum.scalar?_coverEntry lower key d
      simp only [Option.map_some, Option.some_or, reduceCtorEq, false_and, or_false,
        Option.some.injEq, exists_eq_left']
      exact ⟨htake _ _ _ a hshown, htake _ _ _ a hshown.symm⟩

/-- A field that is taken over one table is taken over another one, if that has it at all; and where
the upper table does not name it, it is what the lower one has. -/
theorem field_covering_ok {o p q : Origin}
    {upper lower other entries entries' : List (String × Datum)} {keys : List String}
    {key : String} {own a b : α} {take : List String → Datum → Except LayerFault α}
    (htake : IsShallow take)
    (hlower : (Datum.table o upper).covering (.table p lower) = .table o entries)
    (hother : (Datum.table o upper).covering (.table q other) = .table o entries')
    (h : field entries keys key own take = .ok a) (hb : field other keys key own take = .ok b) :
    ∃ c, field entries' keys key own take = .ok c ∧ (upper.lookup key = none → c = b) := by
  rcases (field_covering_ok_iff htake hlower).1 h with ⟨d, hd, hdtake⟩ | ⟨hnone, -⟩
  · refine ⟨a, (field_covering_ok_iff htake hother).2 (.inl ⟨d, hd, hdtake⟩), fun hnone => ?_⟩
    rw [hd] at hnone
    cases hnone
  · exact ⟨b, (field_covering_ok_iff htake hother).2 (.inr ⟨hnone, hb⟩), fun _ => rfl⟩

/-- **Choices that are taken over one table are taken over another one as well**, field by field, if
that has them; and those that the upper table does not name are what the lower one has. -/
theorem apiOfTable_covering_ok {o p q : Origin}
    {upper lower other entries entries' : List (String × Datum)} {keys : List String}
    {a b : ApiSettings}
    (hlower : (Datum.table o upper).covering (.table p lower) = .table o entries)
    (hother : (Datum.table o upper).covering (.table q other) = .table o entries')
    (h : apiOfTable entries keys = .ok a) (hb : apiOfTable other keys = .ok b) :
    ∃ c, apiOfTable entries' keys = .ok c ∧
      (upper.lookup "base_url" = none → c.baseUrl = b.baseUrl) ∧
      (upper.lookup "timeout" = none → c.timeout = b.timeout) ∧
      (upper.lookup "user_agent" = none → c.userAgent = b.userAgent) ∧
      (upper.lookup "ca_cert" = none → c.certificates = b.certificates) := by
  obtain ⟨hbase, htime, hagent, hcert⟩ := apiOfTable_eq_ok_iff.1 h
  obtain ⟨hbase', htime', hagent', hcert'⟩ := apiOfTable_eq_ok_iff.1 hb
  obtain ⟨baseUrl, hbaseUrl, hkeptBase⟩ :=
    field_covering_ok (isShallow_text .text) hlower hother hbase hbase'
  obtain ⟨timeout, htimeout, hkeptTime⟩ :=
    field_covering_ok isShallow_unsigned64 hlower hother htime htime'
  obtain ⟨userAgent, huserAgent, hkeptAgent⟩ :=
    field_covering_ok (isShallow_optional (isShallow_text .text)) hlower hother hagent hagent'
  obtain ⟨certificates, hcertificates, hkeptCert⟩ :=
    field_covering_ok (isShallow_optional isShallow_path) hlower hother hcert hcert'
  exact ⟨⟨baseUrl, timeout, userAgent, certificates⟩,
    apiOfTable_eq_ok_iff.2 ⟨hbaseUrl, htimeout, huserAgent, hcertificates⟩,
    hkeptBase, hkeptTime, hkeptAgent, hkeptCert⟩

end Extract

/-! ### Settings over one another -/

namespace Settings

open Datum (scalar?)

/-- Settings that have the values of a document, for the choices that it sets and nothing else
names. -/
structure KeepsFile (t : Toml.Table) (named : String → Prop) (a : ApiSettings) : Prop where
  baseUrl : ∀ s, t.choice? "base_url" = some (.string s) → ¬ named "base_url" →
    a.baseUrl = String.ofList s
  timeout : ∀ n : UInt64, t.choice? "timeout" = some (.integer n.toNat) → ¬ named "timeout" →
    a.timeout = n
  userAgent : ∀ s, t.choice? "user_agent" = some (.string s) → ¬ named "user_agent" →
    a.userAgent = some (String.ofList s)
  certificates : ∀ s, t.choice? "ca_cert" = some (.string s) → ¬ named "ca_cert" →
    a.certificates = some (.ofText (String.ofList s))

variable {s : Surroundings} {p shown : Path} {t : Toml.Table}

theorem ofLayers_of_get? {d v : Datum} (hd : ∃ o entries, d = .table o entries)
    (hv : d.get? "api" = some v) : ofLayers d = (Extract.api ["api"] v).map Settings.mk := by
  obtain ⟨o, entries, rfl⟩ := hd
  have hlookup : entries.lookup "api" = some v := hv
  rw [ofLayers, ofEntries, Extract.field, hlookup]
  rfl

/-- What lies below the variables: a layer with a table of choices that can be loaded. -/
inductive IsBelow : Datum → ApiSettings → Prop
  | choices {l q : Origin} {below choices : List (String × Datum)} {f : ApiSettings}
      (here : below.lookup "api" = some (.table q choices))
      (taken : Extract.apiOfTable choices ["api"] = .ok f) : IsBelow (.table l below) f

/-- Variables are laid over the choices that lie below them. -/
theorem ofLayers_covering {o l q : Origin} {vars below choices : List (String × Datum)}
    (hbelow : below.lookup "api" = some (.table q choices)) :
    ofLayers ((Datum.table o vars).covering (.table l below)) =
      (Extract.api ["api"] ((vars.lookup "api").elim (.table q choices) fun v =>
        v.covering (.table q choices))).map Settings.mk := by
  obtain ⟨entries, hentries⟩ := Datum.exists_table_covering o vars (.table l below)
  refine ofLayers_of_get? ⟨o, entries, hentries⟩ ?_
  rw [Datum.get?_api_covering, hbelow]
  cases vars.lookup "api" with
  | none => rfl
  | some v => simp only [Option.map_some, Option.some_or, Datum.coverEntry, hbelow,
      Option.elim_some]

theorem KeepsFile.of_unnamed {named : String → Prop} {a b : ApiSettings}
    (h : KeepsFile t (fun _ => False) a)
    (hbase : ¬ named "base_url" → b.baseUrl = a.baseUrl)
    (htime : ¬ named "timeout" → b.timeout = a.timeout)
    (hagent : ¬ named "user_agent" → b.userAgent = a.userAgent)
    (hcert : ¬ named "ca_cert" → b.certificates = a.certificates) : KeepsFile t named b where
  baseUrl s hs hnamed := (hbase hnamed).trans (h.baseUrl s hs not_false)
  timeout n hn hnamed := (htime hnamed).trans (h.timeout n hn not_false)
  userAgent s hs hnamed := (hagent hnamed).trans (h.userAgent s hs not_false)
  certificates s hs hnamed := (hcert hnamed).trans (h.certificates s hs not_false)

theorem KeepsFile.mono {named named' : String → Prop} {a : ApiSettings} (h : KeepsFile t named a)
    (hnamed : ∀ name, named name → named' name) : KeepsFile t named' a where
  baseUrl s hs hname := h.baseUrl s hs (mt (hnamed _) hname)
  timeout n hn hname := h.timeout n hn (mt (hnamed _) hname)
  userAgent s hs hname := h.userAgent s hs (mt (hnamed _) hname)
  certificates s hs hname := h.certificates s hs (mt (hnamed _) hname)

/-- **What is below the variables does not decide whether they can be loaded.**  Where they can be
loaded over some choices they can be loaded over others, and what they do not name is then as it is
below them. -/
theorem ofLayers_covering_ok {o : Origin} {vars : List (String × Datum)}
    {lower other : Datum} {f g : ApiSettings} (hlower : IsBelow lower f) (hother : IsBelow other g)
    {a : Settings} (h : ofLayers ((Datum.table o vars).covering lower) = .ok a) :
    ∃ b, ofLayers ((Datum.table o vars).covering other) = .ok b ∧
      ∀ t, KeepsFile t (fun _ => False) g → KeepsFile t (Datum.table o vars).Touches b.api := by
  obtain @⟨l, q, below, choices, f, hchoices, hf⟩ := hlower
  obtain @⟨l', q', below', choices', g, hchoices', hg⟩ := hother
  rw [ofLayers_covering hchoices] at h
  rw [ofLayers_covering hchoices']
  cases hvars : vars.lookup "api" with
  | none =>
      -- no variable is about the choices
      refine ⟨⟨g⟩, map_eq_ok_iff.2 ⟨g, hg, rfl⟩, fun t hfile => ?_⟩
      exact hfile.of_unnamed (fun _ => rfl) (fun _ => rfl) (fun _ => rfl) (fun _ => rfl)
  | some v =>
      rw [hvars, Option.elim_some] at h
      rw [Option.elim_some]
      by_cases htable : ∃ r up, v = .table r up
      · -- the variables give a table, field by field over the one below
        obtain ⟨r, up, rfl⟩ := htable
        obtain ⟨entries, hentries⟩ := Datum.exists_table_covering r up (.table q choices)
        obtain ⟨entries', hentries'⟩ := Datum.exists_table_covering r up (.table q' choices')
        rw [hentries] at h
        rw [hentries']
        obtain ⟨x, hx, -⟩ := map_eq_ok_iff.1 h
        obtain ⟨b, hb, hbase, htime, hagent, hcert⟩ :=
          Extract.apiOfTable_covering_ok hentries hentries' hx hg
        have hunnamed {name : String} (hname : ¬ (Datum.table o vars).Touches name) :
            up.lookup name = none := by
          refine Option.not_isSome_iff_eq_none.1 fun hsome => hname ⟨_, hvars, ?_⟩
          intro r' up' hsame
          cases hsame
          exact hsome
        refine ⟨⟨b⟩, map_eq_ok_iff.2 ⟨b, hb, rfl⟩, fun t hfile => ?_⟩
        exact hfile.of_unnamed (fun hname => hbase (hunnamed hname))
          (fun hname => htime (hunnamed hname)) (fun hname => hagent (hunnamed hname))
          (fun hname => hcert (hunnamed hname))
      · -- they give something else, and nothing is left of what is below
        have hcovers (w : Datum) : v.covering w = v :=
          Datum.covering_of_not_tables fun htables => htable htables.1
        have hall (name : String) : (Datum.table o vars).Touches name :=
          ⟨v, hvars, fun r up hsame => absurd ⟨r, up, hsame⟩ htable⟩
        rw [hcovers] at h ⊢
        exact ⟨a, h, fun t _ => ⟨fun _ _ hname => absurd (hall _) hname,
          fun _ _ hname => absurd (hall _) hname, fun _ _ hname => absurd (hall _) hname,
          fun _ _ hname => absurd (hall _) hname⟩⟩

/-! ### Settings from a file and an environment -/

/-- Nothing is found where there are no files. -/
theorem find?_empty (cwd : Location) (p : Path) : FileTree.empty.find? cwd p = none := by
  have hnone (q : Path) : FileTree.empty.isFile cwd q = false := by
    unfold FileTree.isFile FileTree.lookup
    cases FileTree.empty.locate cwd q with
    | error e => rfl
    | ok l => cases l <;> rfl
  unfold FileTree.find?
  split
  · rw [hnone p]
    rfl
  · exact List.find?_eq_none.2 fun q _ => by rw [hnone q]; exact Bool.false_ne_true

/-- Choices that a document decides alone have its values. -/
theorem DecidedBy.keepsFile {o : Origin} {f : ApiSettings}
    (h : DecidedBy (fun name => (t.choice? name).map (Datum.ofToml o)) f) :
    KeepsFile t (fun _ => False) f where
  baseUrl s hs _ := by
    have hbase := h.baseUrl
    rw [hs] at hbase
    exact (Option.some.inj hbase).symm
  timeout n hn _ := by
    have htime := h.timeout
    rw [hn, Option.map_some, Option.elim_some, Datum.ofToml, number?_signed] at htime
    exact (Option.some.inj htime).symm
  userAgent s hs _ := by
    have hagent := h.userAgent
    rw [hs] at hagent
    exact (Option.some.inj hagent).symm
  certificates s hs _ := by
    have hcert := h.certificates
    rw [hs] at hcert
    exact (Option.some.inj hcert).symm

/-- A document with values of the right kinds decides its choices alone. -/
theorem exists_decidedBy (typed : t.IsWellTyped) (o : Origin) :
    ∃ f, DecidedBy (fun name => (t.choice? name).map (Datum.ofToml o)) f := by
  have htext (name : String) (hname : name ∈ ["base_url", "user_agent", "ca_cert"]) (w : Datum)
      (hw : (t.choice? name).map (Datum.ofToml o) = some w) : ∃ s, w.text? = some s := by
    obtain ⟨v, hv, rfl⟩ := Option.map_eq_some_iff.1 hw
    obtain ⟨s, rfl⟩ := typed.text name hname v hv
    exact ⟨_, rfl⟩
  have hnumber (w : Datum) (hw : (t.choice? "timeout").map (Datum.ofToml o) = some w) :
      ∃ n, w.number? = some n := by
    obtain ⟨v, hv, rfl⟩ := Option.map_eq_some_iff.1 hw
    obtain ⟨n, rfl⟩ := typed.number v hv
    exact ⟨n, number?_signed n o⟩
  obtain ⟨baseUrl, hbase⟩ := exists_elim_iff.2 (htext "base_url" (by simp))
  obtain ⟨timeout, htime⟩ := exists_elim_iff.2 hnumber
  obtain ⟨userAgent, hagent⟩ := exists_elim_map_iff.2 (htext "user_agent" (by simp))
  obtain ⟨certificates, hcert⟩ := exists_elim_map_iff.2 (htext "ca_cert" (by simp))
  exact ⟨⟨baseUrl, timeout, userAgent, certificates⟩, hbase, htime, hagent, hcert⟩

/-- **What lies below the variables**, where the file has values of the right kinds: its layer over
the default one, with choices that keep the file. -/
theorem exists_isBelow (file : FileSays s p shown t) (typed : t.IsWellTyped) :
    ∃ lower f, IsBelow lower f ∧ KeepsFile t (fun _ => False) f ∧
      layers s p = .ok (s.environment.layer.covering lower) := by
  obtain ⟨d, hfile, hlayer, hchoice⟩ := file.layer typed.table
  obtain ⟨f, hf⟩ := exists_decidedBy typed (.file shown)
  have hlower := hlayer.covering isLayer_defaults
  have hshown (name : String) : ((d.covering defaults).choice? name).map scalar? =
      (((t.choice? name).map (Datum.ofToml (.file shown))).or (defaults.choice? name)).map
        scalar? := by
    rw [Datum.scalar?_choice?_covering hlayer isLayer_defaults, hchoice]
  have hgiven (name : String) (w : Datum)
      (hw : (t.choice? name).map (Datum.ofToml (.file shown)) = some w) : w.IsGiven := by
    obtain ⟨v, hv, rfl⟩ := Option.map_eq_some_iff.1 hw
    exact Datum.ofToml_isGiven (file.inRange.choice? hv) _
  have hload := (ofLayers_eq_ok_iff hlower hgiven hshown).2 hf
  obtain ⟨o, entries, q, choices, hd, hapi⟩ := exists_choices hlower (hshown "base_url")
  have hget : (d.covering defaults).get? "api" = some (.table q choices) := by
    rw [hd]
    exact hapi
  rw [ofLayers_of_get? ⟨o, entries, hd⟩ hget] at hload
  obtain ⟨f', hf', hsame⟩ := map_eq_ok_iff.1 hload
  obtain rfl : f' = f := congrArg Settings.api hsame
  refine ⟨d.covering defaults, f', ?_, hf.keepsFile, ?_⟩
  · rw [hd]
    exact .choices hapi hf'
  · rw [layers, hfile]
    rfl

theorem load_eq_of_layers {d : Datum} (h : layers s p = .ok d) {a : Settings} :
    load s p = .ok a ↔ ofLayers d = .ok a := by
  have hbind : (layers s p >>= ofLayers) = ofLayers d := by
    rw [h]
    rfl
  rw [load, hbind]
  cases ofLayers d <;> simp

theorem fileSays_empty (s : Surroundings) (p : Path) :
    FileSays { s with files := .empty } p p [] :=
  .missing p (find?_empty s.cwd p)

theorem isWellTyped_nil : Toml.Table.IsWellTyped [] := ⟨nofun, nofun, nofun⟩

/-- **When the file is kept.**  If the file has values of the kinds that the choices take, then for
every environment: where the variables by themselves can be loaded, the settings are loaded, with
the value of the file for each choice that it sets and no variable names; and where the variables by
themselves cannot be loaded, all settings are the default ones. -/
theorem loadOrDefault_wellTyped {s : Surroundings} {p shown : Path} {t : Toml.Table}
    (file : FileSays s p shown t) (typed : t.IsWellTyped) :
    (∀ e, load { s with files := .empty } p = .ok e →
      load s p = .ok (loadOrDefault s p) ∧
        KeepsFile t s.environment.Names (loadOrDefault s p).api) ∧
    ((∀ e, load { s with files := .empty } p ≠ .ok e) → loadOrDefault s p = {}) := by
  obtain ⟨lower, f, hlower, hkeeps, hlayers⟩ := exists_isBelow file typed
  obtain ⟨alone, g, halone, -, hlayersAlone⟩ := exists_isBelow (fileSays_empty s p) isWellTyped_nil
  obtain ⟨vars, hvars⟩ := s.environment.exists_table_layer
  have hload {a : Settings} := load_eq_of_layers (a := a) hlayers
  have hloadAlone {a : Settings} := load_eq_of_layers (a := a) hlayersAlone
  rw [hvars] at hload hloadAlone
  constructor
  · intro e he
    obtain ⟨a, ha, hfile⟩ := ofLayers_covering_ok halone hlower (hloadAlone.1 he)
    have hloaded := hload.2 ha
    have hresult : loadOrDefault s p = a := by rw [loadOrDefault, hloaded]
    refine ⟨by rw [hresult, hloaded], ?_⟩
    rw [hresult]
    exact (hfile t hkeeps).mono fun name hname => Environment.names_of_touches (hvars ▸ hname)
  · intro hfails
    cases hloaded : load s p with
    | error fault => rw [loadOrDefault, hloaded]
    | ok a =>
        obtain ⟨e, he, -⟩ := ofLayers_covering_ok hlower halone (hload.1 hloaded)
        exact absurd (hloadAlone.2 he) (hfails e)

def mirror : ApiSettings := { baseUrl := "https://mirror.example.com/v4/", timeout := 10 }

def mirrorTable : Toml.Table := [("api".toList, .table .headed mirror.table)]

def mirrored (value : String) : Surroundings where
  files := ⟨[([[0x63]], .file (bytesOf (mirror.toToml.toOption.getD "")))], []⟩
  cwd := []
  environment := ⟨[("IPSW_API__TIMEOUT", value)]⟩

theorem isWellTyped_mirrorTable : mirrorTable.IsWellTyped where
  table v hv := by
    cases hv
    exact ⟨_, _, rfl⟩
  text name hname v hv := by
    simp only [List.mem_cons, List.not_mem_nil, or_false] at hname
    rcases hname with rfl | rfl | rfl
    · cases hv
      exact ⟨_, rfl⟩
    · cases hv
    · cases hv
  number v hv := by
    cases hv
    exact ⟨_, rfl⟩

def mirrorPath : Path := .ofText "/c"

/-- The file is found and read, whatever the variable is. -/
theorem fileSays_mirrored (value : String) : FileSays (mirrored value) mirrorPath
    (mirrorPath.shownFrom (Location.path [])) mirrorTable := by
  obtain ⟨text, htext⟩ : ∃ text, mirror.toToml = .ok text :=
    ⟨_, ApiSettings.toToml_eq_ok_iff.2 ⟨⟨by decide, fun _ hp => nomatch hp⟩, rfl⟩⟩
  have located : (mirrored value).files.locate [] mirrorPath = .ok [[0x63]] :=
    FileTree.locate_eq_ok_iff.2 ⟨⟨by decide, by decide, by decide⟩, rfl⟩
  have hget : (mirrored value).files.get? [[0x63]] = some (.file (bytesOf text)) := by
    simp only [mirrored, htext]
    rfl
  obtain ⟨find, read⟩ := FileTree.find?_read (by decide) located (by decide) hget rfl
  exact .document find read (Utf8.decode?_encode text.toList) (ApiSettings.parse?_toToml htext)

theorem keys?_timeout : Environment.keys? "IPSW_API__TIMEOUT" = some ["api", "timeout"] := by
  decide +kernel

theorem namesChoices_mirrored (value : String) : (mirrored value).environment.NamesChoices := by
  intro v hv keys hkeys _
  obtain rfl := List.mem_singleton.1 hv
  rw [keys?_timeout] at hkeys
  exact ⟨"timeout", (Option.some.inj hkeys).symm⟩

theorem not_names_mirrored (value : String) : ¬ (mirrored value).environment.Names "base_url" := by
  rintro ⟨v, hv, d, hd, w, hw, hname⟩
  obtain rfl := List.mem_singleton.1 hv
  rw [Environment.setting?, keys?_timeout] at hd
  cases hd
  cases hw
  have hnone := hname _ _ rfl
  cases hnone

theorem lastValue?_mirrored (value name : String) : (mirrored value).environment.lastValue? name =
    if name = "timeout" then some (VariableValue.parse value) else none := by
  by_cases hname : name = "timeout"
  · simp [Environment.lastValue?, mirrored, keys?_timeout, hname]
  · simp [Environment.lastValue?, mirrored, keys?_timeout, hname, Ne.symm hname]

/-- With a time limit in the variable, the address is still that of the file. -/
theorem loadOrDefault_wellTyped_mirrored :
    FileSays (mirrored "5") mirrorPath (mirrorPath.shownFrom (Location.path [])) mirrorTable ∧
      mirrorTable.IsWellTyped ∧
      (∃ e, load { mirrored "5" with files := .empty } mirrorPath = .ok e) ∧
      (loadOrDefault (mirrored "5") mirrorPath).api.baseUrl = mirror.baseUrl := by
  have halone : load { mirrored "5" with files := .empty } mirrorPath = .ok ⟨{ timeout := 5 }⟩ := by
    refine (load_eq_ok_iff (fileSays_empty (mirrored "5") mirrorPath) isWellTyped_nil.table
      (namesChoices_mirrored "5") { timeout := 5 }).2 ⟨?_, ?_, ?_, ?_⟩
    · rw [winning?, lastValue?_mirrored, if_neg (by decide)]
      rfl
    · rw [winning?, lastValue?_mirrored, if_pos rfl]
      rfl
    · rw [winning?, lastValue?_mirrored, if_neg (by decide)]
      rfl
    · rw [winning?, lastValue?_mirrored, if_neg (by decide)]
      rfl
  have hkept := ((loadOrDefault_wellTyped (fileSays_mirrored "5") isWellTyped_mirrorTable).1 _
    halone).2.baseUrl _ rfl (not_names_mirrored "5")
  refine ⟨fileSays_mirrored "5", isWellTyped_mirrorTable, ⟨_, halone⟩, ?_⟩
  rw [hkept, String.ofList_toList]

/-- **A file is dropped for the sake of a variable.**  It says where the catalog is, and no variable
does; but the time limit in a variable is not a number. -/
theorem loadOrDefault_drops_file :
    FileSays (mirrored "soon") mirrorPath (mirrorPath.shownFrom (Location.path [])) mirrorTable ∧
      mirrorTable.IsWellTyped ∧
      mirrorTable.choice? "base_url" = some (.string mirror.baseUrl.toList) ∧
      ¬ (mirrored "soon").environment.Names "base_url" ∧
      loadOrDefault (mirrored "soon") mirrorPath = {} ∧
      (loadOrDefault (mirrored "soon") mirrorPath).api.baseUrl ≠ mirror.baseUrl := by
  have hdefault : loadOrDefault (mirrored "soon") mirrorPath = {} := by
    rw [loadOrDefault]
    cases hload : load (mirrored "soon") mirrorPath with
    | error fault => rfl
    | ok a =>
        have hdecided := (load_eq_ok_iff (fileSays_mirrored "soon") isWellTyped_mirrorTable.table
          (namesChoices_mirrored "soon") a.api).1 hload
        have htime := hdecided.timeout
        rw [winning?, lastValue?_mirrored, if_pos rfl] at htime
        cases htime
  refine ⟨fileSays_mirrored "soon", isWellTyped_mirrorTable, rfl, not_names_mirrored "soon",
    hdefault, ?_⟩
  rw [hdefault]
  decide

end Settings

end FirmwareCatalog
