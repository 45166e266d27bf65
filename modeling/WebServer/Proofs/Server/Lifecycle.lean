import WebServer.Chain.Stock
import WebServer.Proofs.Route.Registry
import WebServer.Proofs.SockTable.Clearing
import WebServer.Server

/-!
# WebServer.Proofs.Server.Lifecycle

The life of a server, over all histories of calls and of what its connections and its pool do
meanwhile. A call does what it is for if it is admitted, and else nothing (`perform_hinges`).
From this come the facts that hold of a server at all times (`Coherent`). The routes are frozen
with the registrations that have succeeded by then, and hold these and nothing else
(`routes_hold_registrations`).

Main statement: whatever the history, the server's routes, pool and sets of connections are
those that its phase and its successful registrations call for, and the next call goes as the
phase allows (`afterAll_follows_phases`).
-/

namespace WebServer

open Registration

/-- Whether a server in this phase has been set up and not yet destroyed. -/
def Phase.isSetUp : Phase → Bool
  | .initialized | .running | .stopped => true
  | .configured | .destroyed => false

/-- The phase that a call leads to, if it succeeds. -/
inductive Call.Leads : Call → Phase → Phase → Prop where
  | register {r : Registration} : Leads (.register r) .configured .configured
  | init : Leads .init .configured .initialized
  | start : Leads .start .initialized .running
  | stop : Leads .stop .running .stopped
  | destroy {p : Phase} : p.isSetUp = true → Leads .destroy p .destroyed

/-- The registration that a call asks for, if there is one. -/
def Call.registrations : Call → List Registration
  | .register r => [r]
  | .init | .start | .stop | .destroy => []

namespace Server

variable {config : Config} {bindable : String → Bool} {s t : Server} {c : Call}
  {rs : List Registration}

/-! ## One call -/

/-- When a call succeeds. -/
def Admits (bindable : String → Bool) (s : Server) : Call → Prop
  | .register r => s.phase = .configured ∧ r.IsReadable ∧ (extend s.builder r).Distinct
  | .init =>
      s.phase = .configured ∧ s.config.fault? = none ∧ bindable s.config.server.listenAddr = true
  | .start => s.phase = .initialized
  | .stop => s.phase = .running
  | .destroy => s.phase.isSetUp = true

/-- A server that has been set up. -/
def setUp (s : Server) : Server :=
  { s with
    phase := .initialized
    routes := some (.ofBuilder s.builder)
    pool := if s.config.pool.enabled then some (.ofConfig s.config.pool.poolConfig) else none
    socks := { s.socks with sets := s.socks.sets ++ [some []] }
    addresses := s.addresses ++ [s.config.server.listenAddr] }

/-- What a call makes of a server, if it succeeds. -/
def turned (s : Server) : Call → Server
  | .register r => { s with builder := extend s.builder r }
  | .init => s.setUp
  | .start => { s with phase := .running }
  | .stop => s.stop
  | .destroy => s.destroy

theorem fits_of_admits (h : s.Admits bindable c) : fits c s.phase = true := by
  cases c with
  | register r => rw [h.1]; rfl
  | init => rw [h.1]; rfl
  | start | stop => rw [Admits] at h; rw [h]; rfl
  | destroy =>
      rw [Admits] at h
      cases hp : s.phase <;> simp [hp, Phase.isSetUp] at h <;> rfl

/-- A call that does not fit the phase is refused. -/
theorem perform_of_not_fits (h : fits c s.phase = false) :
    s.perform bindable c = (some (.lifecycle c.action s.phase), s) := by
  unfold perform
  rw [if_neg (by simp [h])]

/-- An answer hinges on a condition: the call succeeds and gives `t`, or fails and leaves
`s`. -/
def HingesOn (ok : Prop) (s t : Server) (a : Answer) : Prop :=
  ok ∧ a = (none, t) ∨ ¬ ok ∧ ∃ e, a = (some e, s)

theorem perform_register {r : Registration} (hb : s.builder.Distinct)
    (bindable : String → Bool) (hp : s.phase = .configured) :
    HingesOn (r.IsReadable ∧ (extend s.builder r).Distinct) s (s.turned (.register r))
      (s.perform bindable (.register r)) := by
  have hfits : fits (.register r) s.phase = true := by rw [hp]; rfl
  rw [perform, if_pos hfits]
  cases hadd : r.addTo s.builder with
  | ok b =>
      obtain ⟨hread, hdistinct, rfl⟩ := (addTo_eq_ok_iff hb).1 hadd
      exact .inl ⟨⟨hread, hdistinct⟩, rfl⟩
  | error e =>
      refine .inr ⟨fun ⟨hread, hdistinct⟩ => ?_, _, rfl⟩
      rw [(addTo_eq_ok_iff hb).2 ⟨hread, hdistinct, rfl⟩] at hadd
      contradiction

theorem perform_init (bindable : String → Bool) (hp : s.phase = .configured) :
    HingesOn (s.config.fault? = none ∧ bindable s.config.server.listenAddr = true) s
      (s.turned .init) (s.perform bindable .init) := by
  have hfits : fits .init s.phase = true := by rw [hp]; rfl
  rw [perform, if_pos hfits, init]
  cases hfault : s.config.fault? with
  | some fault => exact .inr ⟨fun h => by simp at h, _, rfl⟩
  | none =>
      dsimp only
      cases hbind : bindable s.config.server.listenAddr with
      | true => exact .inl ⟨⟨rfl, rfl⟩, rfl⟩
      | false => exact .inr ⟨fun h => by simp at h, _, rfl⟩

/-- **A call succeeds exactly if it is admitted**, and does then what it is for; a call that
fails leaves the server as it was. -/
theorem perform_hinges (hb : s.builder.Distinct) (bindable : String → Bool) (c : Call) :
    HingesOn (s.Admits bindable c) s (s.turned c) (s.perform bindable c) := by
  cases hfits : fits c s.phase with
  | false =>
      refine .inr ⟨fun h => ?_, _, perform_of_not_fits hfits⟩
      rw [fits_of_admits h] at hfits
      contradiction
  | true =>
      cases c with
      | register r =>
          have hp : s.phase = .configured := by
            cases hp : s.phase <;> simp [hp, fits] at hfits ⊢
          simpa only [Admits, hp, true_and] using perform_register hb bindable hp
      | init =>
          have hp : s.phase = .configured := by
            cases hp : s.phase <;> simp [hp, fits] at hfits ⊢
          simpa only [Admits, hp, true_and] using perform_init bindable hp
      | start | stop | destroy =>
          refine .inl ⟨?_, ?_⟩
          · rw [Admits]
            cases hp : s.phase <;> simp [hp, fits, Phase.isSetUp] at hfits ⊢
          · rw [perform, if_pos hfits]
            rfl

/-- A call that is admitted leads where it should. -/
theorem leads_of_admits (h : s.Admits bindable c) : c.Leads s.phase (s.turned c).phase := by
  cases c with
  | register r => rw [turned, h.1]; exact .register
  | init => rw [h.1]; exact .init
  | start => rw [show s.phase = _ from h]; exact .start
  | stop => rw [show s.phase = _ from h]; exact .stop
  | destroy => exact .destroy h

/-! ## Histories -/

/-- What happens to a server. -/
inductive Happening where
  /-- A call; `bindable` tells which addresses can be bound then. -/
  | call (bindable : String → Bool) (c : Call)
  /-- A client arrives. -/
  | arrival (peer : String) (now : Nat)
  /-- A connection, or the reaper, does something to a sock. -/
  | sock (i : Nat) (op : Sock.Op)
  /-- The pool, if there is one, goes on in any way. -/
  | pool (go : Schedule → Schedule)

/-- The server after a happening. Clients are taken in once the server has been started, and one
may still slip in while it stops; what takes them in ends with the server. -/
def after (s : Server) : Happening → Server
  | .call bindable c => (s.perform bindable c).2
  | .arrival peer now =>
      if s.phase = .running ∨ s.phase = .stopped then
        { s with socks := s.socks.after (.register 0 peer now) }
      else s
  | .sock i op => { s with socks := s.socks.after (.call i op) }
  | .pool go => { s with pool := s.pool.map go }

/-- The server after some happenings. -/
def afterAll (s : Server) (hs : List Happening) : Server := hs.foldl after s

/-- The registration that succeeds in a happening, if there is one. -/
def newly (s : Server) : Happening → List Registration
  | .call bindable c => if (s.perform bindable c).1.isNone then c.registrations else []
  | .arrival .. | .sock .. | .pool _ => []

/-- The registrations that succeed, in order. -/
def registered (s : Server) : List Happening → List Registration
  | [] => []
  | h :: hs => s.newly h ++ (s.after h).registered hs

/-! ## What holds at all times -/

/-- A server is as its phase and the registrations that have succeeded call for. -/
structure Coherent (config : Config) (rs : List Registration) (s : Server) : Prop where
  config_eq : s.config = config
  builder_eq : s.builder = extendAll (ofConfig config).builder rs
  distinct : s.builder.Distinct
  routes_eq : s.routes = if s.phase = .configured then none else some (.ofBuilder s.builder)
  pool_eq : s.pool.isSome = (config.pool.enabled && s.phase.isSetUp)
  length_addresses : s.addresses.length = if s.phase = .configured then 0 else 1
  blank : s.phase = .configured → s.socks = .ofSets 0
  kept : s.phase ≠ .configured → s.socks.sets.length = 1 ∧ s.socks.Kept 1
  cleared : s.phase = .destroyed → s.socks.live 0 = []

theorem coherent_ofConfig (config : Config) : Coherent config [] (ofConfig config) where
  config_eq := rfl
  builder_eq := by simp [extendAll]
  distinct := List.nodup_nil
  routes_eq := rfl
  pool_eq := by simp [ofConfig, Phase.isSetUp]
  length_addresses := rfl
  blank _ := rfl
  kept h := absurd rfl h
  cleared h := by simp [ofConfig] at h

/-- Closing sets one after the other is a deed for each. -/
theorem onSets_eq {op : SockTable → Nat → Nat × SockTable} {deed : Nat → SockTable.Deed}
    (hop : ∀ t set, (op t set).2 = t.after (deed set)) (n : Nat) (t : SockTable) :
    onSets op n t = t.afterAll ((List.range n).map deed) := by
  induction n with
  | zero => rfl
  | succ n ih => rw [onSets, hop, ih, SockTable.afterAll_range_succ]

theorem socks_stop (s : Server) :
    s.stop.socks = s.socks.afterAll ((List.range s.socks.sets.length).map .closeWaiting) :=
  onSets_eq (fun _ _ => rfl) _ _

theorem socks_destroy (s : Server) :
    s.destroy.socks = s.socks.afterAll ((List.range s.socks.sets.length).map .closeAll) :=
  onSets_eq (fun _ _ => rfl) _ _

/-- The one set of a server stays kept, whatever is done to it. -/
theorem kept_of_deeds {t : SockTable} (h : t.sets.length = 1 ∧ t.Kept 1)
    (ds : List SockTable.Deed) :
    (t.afterAll ds).sets.length = 1 ∧ (t.afterAll ds).Kept 1 :=
  ⟨(t.length_sets_afterAll ds).trans h.1, h.2.afterAll ds⟩

namespace Coherent

/-- What is done to socks leaves a server coherent, if it is done where there are any and
brings none to life once the server is destroyed. -/
theorem of_deed (h : Coherent config rs s) (d : SockTable.Deed)
    (hblank : s.phase = .configured → s.socks.after d = s.socks)
    (hd : s.phase = .destroyed → SockTable.homes [d] = []) :
    Coherent config rs { s with socks := s.socks.after d } where
  config_eq := h.config_eq
  builder_eq := h.builder_eq
  distinct := h.distinct
  routes_eq := h.routes_eq
  pool_eq := h.pool_eq
  length_addresses := h.length_addresses
  blank hp := (hblank hp).trans (h.blank hp)
  kept hp := kept_of_deeds (h.kept hp) [d]
  cleared hp := SockTable.live_after_eq_nil (hd hp) (h.cleared hp)

/-- What a server that has been set up keeps for good, and what a further phase asks of it. -/
theorem of_later (h : Coherent config rs s) (hs : s.phase ≠ .configured)
    (hsame : t.config = s.config ∧ t.builder = s.builder ∧ t.routes = s.routes ∧
      t.addresses = s.addresses)
    (ht : t.phase ≠ .configured)
    (hpool : t.pool.isSome = (s.config.pool.enabled && t.phase.isSetUp))
    (hkept : t.socks.sets.length = 1 ∧ t.socks.Kept 1)
    (hcleared : t.phase = .destroyed → t.socks.live 0 = []) : Coherent config rs t where
  config_eq := hsame.1.trans h.config_eq
  builder_eq := hsame.2.1.trans h.builder_eq
  distinct := hsame.2.1 ▸ h.distinct
  routes_eq := by rw [hsame.2.2.1, hsame.2.1, h.routes_eq, if_neg hs, if_neg ht]
  pool_eq := h.config_eq ▸ hpool
  length_addresses := by rw [hsame.2.2.2, h.length_addresses, if_neg hs, if_neg ht]
  blank hp := absurd hp ht
  kept _ := hkept
  cleared := hcleared

theorem of_register (h : Coherent config rs s) {r : Registration} (hp : s.phase = .configured)
    (hd : (extend s.builder r).Distinct) :
    Coherent config (rs ++ [r]) { s with builder := extend s.builder r } :=
  { h with
    builder_eq := by
      rw [h.builder_eq]
      simp [extendAll, extend]
    distinct := hd
    routes_eq := by
      rw [h.routes_eq, if_pos hp, if_pos hp] }

theorem of_setUp (h : Coherent config rs s) (hp : s.phase = .configured) :
    Coherent config rs s.setUp where
  config_eq := h.config_eq
  builder_eq := h.builder_eq
  distinct := h.distinct
  routes_eq := rfl
  pool_eq := by
    rw [setUp, h.config_eq]
    cases config.pool.enabled <;> rfl
  length_addresses := by
    rw [setUp, List.length_append, h.length_addresses, if_pos hp]
    rfl
  blank hp' := by simp [setUp] at hp'
  kept _ := by
    rw [setUp, h.blank hp]
    exact ⟨rfl, SockTable.kept_ofSets 1⟩
  cleared hp' := by simp [setUp] at hp'

theorem of_start (h : Coherent config rs s) (hp : s.phase = .initialized) :
    Coherent config rs { s with phase := .running } := by
  have hne : s.phase ≠ .configured := by simp [hp]
  refine h.of_later hne ⟨rfl, rfl, rfl, rfl⟩ (by simp) ?_ (h.kept hne) (by simp)
  rw [h.pool_eq, h.config_eq, hp]
  rfl

theorem of_stop (h : Coherent config rs s) (hp : s.phase = .running) :
    Coherent config rs s.stop := by
  have hne : s.phase ≠ .configured := by simp [hp]
  refine h.of_later hne ⟨rfl, rfl, rfl, rfl⟩ (by simp [stop]) ?_ ?_ (by simp [stop])
  · rw [stop, Option.isSome_map, h.pool_eq, h.config_eq, hp]
    rfl
  · rw [socks_stop]
    exact kept_of_deeds (h.kept hne) _

theorem of_destroy (h : Coherent config rs s) (hp : s.phase.isSetUp = true) :
    Coherent config rs s.destroy := by
  have hne : s.phase ≠ .configured := by
    intro hc
    simp [hc, Phase.isSetUp] at hp
  have hkept := h.kept hne
  refine h.of_later hne ⟨rfl, rfl, rfl, rfl⟩ (by simp [destroy])
    (by simp [destroy, Phase.isSetUp]) ?_ fun _ => ?_
  · rw [socks_destroy]
    exact kept_of_deeds hkept _
  · rw [socks_destroy, hkept.1]
    exact SockTable.live_closeAlls hkept.2 (Nat.le_refl 1) 0 Nat.zero_lt_one

/-- A call that is admitted leaves a server coherent, with the registration it asks for. -/
theorem of_turned (h : Coherent config rs s) (ha : s.Admits bindable c) :
    Coherent config (rs ++ c.registrations) (s.turned c) := by
  cases c with
  | register r => exact h.of_register ha.1 ha.2.2
  | init => exact (List.append_nil rs).symm ▸ h.of_setUp ha.1
  | start => exact (List.append_nil rs).symm ▸ h.of_start ha
  | stop => exact (List.append_nil rs).symm ▸ h.of_stop ha
  | destroy => exact (List.append_nil rs).symm ▸ h.of_destroy ha

/-- A happening leaves a server coherent. -/
theorem after (h : Coherent config rs s) (e : Happening) :
    Coherent config (rs ++ s.newly e) (s.after e) := by
  cases e with
  | call bindable c =>
      rw [newly, Server.after]
      obtain ⟨ha, hturn⟩ | ⟨_, error, hfail⟩ := perform_hinges h.distinct bindable c
      · rw [hturn]
        exact h.of_turned ha
      · rw [hfail]
        exact (List.append_nil rs).symm ▸ h
  | arrival peer now =>
      rw [newly, List.append_nil, Server.after]
      split
      · next hp =>
          refine h.of_deed _ (fun hc => ?_) fun hc => ?_ <;> simp [hc] at hp
      · exact h
  | sock i op =>
      rw [newly, List.append_nil]
      refine h.of_deed _ (fun hc => ?_) fun _ => rfl
      rw [h.blank hc]
      exact congrArg Prod.snd (SockTable.apply_of_none rfl)
  | pool go =>
      rw [newly, List.append_nil]
      exact { h with pool_eq := (Option.isSome_map ..).trans h.pool_eq }

/-- Whatever happens, a server stays coherent. -/
theorem afterAll (h : Coherent config rs s) (hs : List Happening) :
    Coherent config (rs ++ s.registered hs) (s.afterAll hs) := by
  induction hs generalizing rs s with
  | nil => exact (List.append_nil rs).symm ▸ h
  | cons e hs ih =>
      rw [registered, ← List.append_assoc]
      exact ih (h.after e)

/-- A server that has been destroyed holds no connection in any set. -/
theorem members_eq_nil (h : Coherent config rs s) (hp : s.phase = .destroyed) (set : Nat) :
    s.socks.members set = [] := by
  obtain ⟨hlength, hkept⟩ := h.kept (by simp [hp])
  cases set with
  | zero => exact (hkept.members_eq Nat.zero_lt_one).trans (h.cleared hp)
  | succ set =>
      rw [SockTable.members, List.getElem?_eq_none (by omega)]
      rfl

end Coherent

/-- A happening leaves the phase as it is, or is a call that succeeds and leads on. -/
theorem phase_after (hb : s.builder.Distinct) (e : Happening) :
    (s.after e).phase = s.phase ∨
      ∃ bindable c, e = .call bindable c ∧ (s.perform bindable c).1 = none ∧
        c.Leads s.phase (s.after e).phase := by
  cases e with
  | call bindable c =>
      obtain ⟨ha, hturn⟩ | ⟨_, error, hfail⟩ := perform_hinges hb bindable c
      · refine .inr ⟨bindable, c, rfl, by rw [hturn], ?_⟩
        rw [after, hturn]
        exact leads_of_admits ha
      · exact .inl (by rw [after, hfail])
  | arrival peer now =>
      rw [after]
      split <;> exact .inl rfl
  | sock | pool => exact .inl rfl

/-! ## The frozen routes -/

theorem isReadable_of_mem_newly (hb : s.builder.Distinct) {e : Happening} {r : Registration}
    (hr : r ∈ s.newly e) : r.IsReadable := by
  cases e with
  | call bindable c =>
      rw [newly] at hr
      obtain ⟨ha, hturn⟩ | ⟨_, error, hfail⟩ := perform_hinges hb bindable c
      · rw [hturn] at hr
        cases c with
        | register r' =>
            obtain rfl := List.mem_singleton.1 hr
            exact ha.2.1
        | init | start | stop | destroy => simp [Call.registrations] at hr
      · rw [hfail] at hr
        simp at hr
  | arrival | sock | pool => simp [newly] at hr

namespace Coherent

/-- Only registrations whose texts are patterns succeed. -/
theorem isReadable_of_mem_registered (h : Coherent config rs s) {hs : List Happening}
    {r : Registration} (hr : r ∈ s.registered hs) : r.IsReadable := by
  induction hs generalizing rs s with
  | nil => simp [registered] at hr
  | cons e hs ih =>
      obtain hr | hr := List.mem_append.1 hr
      · exact isReadable_of_mem_newly h.distinct hr
      · exact ih (h.after e) hr

/-- A server that has been set up is set up no second time, and its routes stay as they are. -/
theorem routes_after (h : Coherent config rs s) (hp : s.phase ≠ .configured) (e : Happening) :
    (s.after e).phase ≠ .configured ∧ (s.after e).routes = s.routes := by
  cases e with
  | call bindable c =>
      rw [Server.after]
      obtain ⟨ha, hturn⟩ | ⟨_, error, hfail⟩ := perform_hinges h.distinct bindable c
      · rw [hturn]
        cases c with
        | register | init => exact absurd ha.1 hp
        | start | stop | destroy => exact ⟨by simp [turned, stop, destroy], rfl⟩
      · rw [hfail]
        exact ⟨hp, rfl⟩
  | arrival peer now =>
      rw [Server.after]
      split <;> exact ⟨hp, rfl⟩
  | sock | pool => exact ⟨hp, rfl⟩

theorem routes_afterAll (h : Coherent config rs s) (hp : s.phase ≠ .configured)
    (hs : List Happening) : (s.afterAll hs).routes = s.routes := by
  induction hs generalizing rs s with
  | nil => rfl
  | cons e hs ih =>
      obtain ⟨hphase, hroutes⟩ := h.routes_after hp e
      exact (ih (h.after e) hphase).trans hroutes

end Coherent

/-- **The frozen routes are those of the registrations.** Whatever has happened, once a server has
routes they count the texts of the registrations that have succeeded, map the pattern of each of
them to its endpoint and no other pattern, hold the interceptors in order, and stay as they are
whatever happens then. -/
theorem routes_hold_registrations (config : Config) (hs : List Happening) {routes : Routes}
    (h : ((ofConfig config).afterAll hs).routes = some routes) :
    let rs := (ofConfig config).registered hs
    routes.endpointCount = (rs.flatMap endpointTexts).length ∧
    (∀ p e, routes.mapped? p = some e ↔
      ∃ ts, .endpoint ts e ∈ rs ∧ ∃ t ∈ ts, Route.Pattern.parse t = .ok p) ∧
    routes.interceptors = rs.flatMap guards ∧
    ∀ later, ((ofConfig config).afterAll (hs ++ later)).routes = some routes := by
  intro rs
  have hs' : Coherent config rs ((ofConfig config).afterAll hs) := by
    simpa using (coherent_ofConfig config).afterAll hs
  have hp : ((ofConfig config).afterAll hs).phase ≠ .configured := by
    intro hc
    rw [hs'.routes_eq, if_pos hc] at h
    contradiction
  have hread : ∀ r ∈ rs, r.IsReadable := fun r hr =>
    (coherent_ofConfig config).isReadable_of_mem_registered hr
  have hbuilder := hs'.builder_eq
  have hdistinct := hs'.distinct
  have hroutes := hs'.routes_eq
  rw [if_neg hp, h, hbuilder] at hroutes
  rw [hbuilder] at hdistinct
  obtain rfl := Option.some.inj hroutes
  have hendpoints : (extendAll (ofConfig config).builder rs).endpoints = rs.flatMap mappings :=
    List.nil_append _
  refine ⟨?_, fun p e => ?_, List.nil_append _, fun later => ?_⟩
  · rw [Route.Router.endpointCount_ofBuilder hdistinct, hendpoints, length_flatMap_mappings hread]
  · rw [Route.Router.mapped?_eq_some_iff hdistinct, hendpoints]
    exact mem_flatMap_mappings_iff hread
  · rw [afterAll, List.foldl_append]
    exact (hs'.routes_afterAll hp later).trans h

/-! ## Whole lives -/

/-- Whatever happens to a server, its routes are those of the registrations that have succeeded,
frozen by the call that set it up, it has a pool while it is set up, if it is to have one, and
once it is destroyed its sets of connections are empty. Then a call either is admitted, succeeds
and leads on, or fails and leaves all as it was; and nothing else moves the phase. -/
theorem afterAll_follows_phases (config : Config) (hs : List Happening) :
    let s := (ofConfig config).afterAll hs
    let rs := (ofConfig config).registered hs
    (s.config = config ∧ s.builder = extendAll (ofConfig config).builder rs ∧
      s.routes = (if s.phase = .configured then none else some (.ofBuilder s.builder)) ∧
      s.addresses.length = if s.phase = .configured then 0 else 1) ∧
    s.pool.isSome = (config.pool.enabled && s.phase.isSetUp) ∧
    (s.phase = .destroyed → ∀ set, s.socks.members set = []) ∧
    (∀ bindable c,
      s.Admits bindable c ∧ (s.perform bindable c).1 = none ∧
          c.Leads s.phase (s.perform bindable c).2.phase ∨
        ¬ s.Admits bindable c ∧ (s.perform bindable c).1 ≠ none ∧
          (s.perform bindable c).2 = s) ∧
    ∀ e, (s.after e).phase = s.phase ∨
      ∃ bindable c, e = .call bindable c ∧ (s.perform bindable c).1 = none ∧
        c.Leads s.phase (s.after e).phase := by
  intro s rs
  have h : Coherent config rs s := by simpa using (coherent_ofConfig config).afterAll hs
  refine ⟨⟨h.config_eq, h.builder_eq, h.routes_eq, h.length_addresses⟩, h.pool_eq, h.members_eq_nil,
    fun bindable c => ?_, phase_after h.distinct⟩
  obtain ⟨ha, hturn⟩ | ⟨ha, error, hfail⟩ := perform_hinges h.distinct bindable c
  · refine .inl ⟨ha, ?_, ?_⟩ <;> rw [hturn]
    exact leads_of_admits ha
  · refine .inr ⟨ha, ?_, ?_⟩ <;> rw [hfail]
    exact Option.some_ne_none _

/-- A page on one path. -/
def page : Registration := .endpoint ["/a"] (.http (.named "page"))

/-- An interceptor before all paths. -/
def guard : Registration := .interceptor ["/*"] (.tag "guard")

/-- A page is registered twice, the address is taken at first, and a guard is registered before
it is free. -/
def settingUp : List Happening :=
  [.call (fun _ => true) (.register page), .call (fun _ => true) (.register page),
    .call (fun _ => false) .init, .call (fun _ => true) (.register guard),
    .call (fun _ => true) .init]

/-- The server is set up with the page and the guard, takes a client in, and ends empty. -/
theorem afterAll_follows_phases_of_settingUp :
    let running : List Happening := settingUp ++ [.call (fun _ => true) (.register page),
      .call (fun _ => true) .start, .arrival "peer" 3]
    let s := (ofConfig {}).afterAll settingUp
    let t := (ofConfig {}).afterAll running
    let u := (ofConfig {}).afterAll
      (running ++ [.call (fun _ => true) .stop, .call (fun _ => true) .destroy])
    s.routes = some (.ofBuilder (extendAll { contextPath := "/" } [page, guard])) ∧
      (s.perform (fun _ => true) .init).2 = s ∧ t.socks.members 0 = [0] ∧
      u.phase = .destroyed ∧ u.socks.members 0 = [] := by
  intro running s t u
  obtain ⟨⟨_, hbuilder, hroutes, _⟩, _, _, hcalls, _⟩ := afterAll_follows_phases {} settingUp
  obtain ⟨_, _, hempty, _⟩ := afterAll_follows_phases {}
    (running ++ [.call (fun _ => true) .stop, .call (fun _ => true) .destroy])
  have hregistered : (ofConfig {}).registered settingUp = [page, guard] := rfl
  have hs : ((ofConfig {}).afterAll settingUp).phase ≠ .configured := by decide
  have hu : u.phase = .destroyed := rfl
  refine ⟨?_, ?_, rfl, hu, hempty hu 0⟩
  · rw [hroutes, if_neg hs, hbuilder, hregistered]
    rfl
  · obtain ⟨hadmits, _⟩ | ⟨_, _, hsame⟩ := hcalls (fun _ => true) .init
    · exact absurd hadmits.1 hs
    · exact hsame

end Server

end WebServer
