import WebServer.Link

/-!
# WebServer.Proofs.Link.Delivery

A client that sends bytes in pieces and leaves. `Delivers` says what is still to be
read of them: what the inbox holds and what is under way. Reading takes bytes from
the front of it (`receive_of_delivers`) and waiting takes nothing
(`await_of_delivers`); the server's side of the link stays as it is (`SameServer`).
-/

namespace WebServer

namespace Link

/-! ## The server's side -/

/-- Only time and the client's side have moved. -/
structure SameServer (l l' : Link) : Prop where
  sink : l'.sink = l.sink
  sock : l'.sock = l.sock
  shutdown : l'.shutdown = l.shutdown
  horizon : l'.horizon = l.horizon
  trace : l'.trace = l.trace

namespace SameServer

variable {l l' l'' : Link}

theorem refl (l : Link) : SameServer l l := ⟨rfl, rfl, rfl, rfl, rfl⟩

theorem trans (h : SameServer l l') (h' : SameServer l' l'') : SameServer l l'' where
  sink := h'.sink.trans h.sink
  sock := h'.sock.trans h.sock
  shutdown := h'.shutdown.trans h.shutdown
  horizon := h'.horizon.trans h.horizon
  trace := h'.trace.trans h.trace

theorem events_eq (h : SameServer l l') : l'.events = l.events := congrArg List.reverse h.trace

end SameServer

/-! ## The client's side -/

section Client

variable {last : Nat}

/-- What a client does from an instant on: it sends bytes piece by piece, and leaves
at `last` at the latest. -/
inductive Sends (last : Nat) : Nat → List (Nat × Act) → Bytes → Prop where
  | leaves {now t : Nat} :
      now ≤ t → t ≤ last → Sends last now [(t, .eof)] []
  | piece {now t : Nat} {p bs : Bytes} {timeline : List (Nat × Act)} :
      now ≤ t → t ≤ last → p ≠ [] → Sends last t timeline bs →
      Sends last now ((t, .bytes p) :: timeline) (p ++ bs)

/-- What is still to be read from a client. -/
inductive Delivers (last : Nat) (l : Link) : Bytes → Prop where
  | sending {bs : Bytes} :
      l.tail = .quiet → Sends last l.now l.timeline bs →
      Delivers last l (l.inbox ++ bs)
  | left : l.tail = .eof → l.timeline = [] → Delivers last l l.inbox

/-- Time may pass up to the next act. -/
theorem Sends.later {now now' : Nat} {timeline : List (Nat × Act)} {bs : Bytes}
    (h : Sends last now timeline bs) (hfirst : ∀ e ∈ timeline.head?, now' ≤ e.1) :
    Sends last now' timeline bs := by
  cases h with
  | leaves _ ht => exact .leaves (hfirst _ rfl) ht
  | piece _ ht hp hrest => exact .piece (hfirst _ rfl) ht hp hrest

theorem Sends.now_le {now : Nat} {timeline : List (Nat × Act)} {bs : Bytes}
    (h : Sends last now timeline bs) : now ≤ last := by
  cases h with
  | leaves hle ht => exact Nat.le_trans hle ht
  | piece hle ht _ _ => exact Nat.le_trans hle ht

/-- What is under way is all there is to come. -/
theorem Sends.length_eq {now : Nat} {timeline : List (Nat × Act)} {bs : Bytes}
    (h : Sends last now timeline bs) :
    timeline.foldr (fun e n => Act.size e.2 + n) 0 = bs.length := by
  induction h with
  | leaves => rfl
  | piece _ _ _ _ ih =>
      rw [List.foldr_cons, ih, List.length_append]
      rfl

variable {l : Link} {bs : Bytes}

theorem Delivers.supply_eq (h : l.Delivers last bs) : l.supply = bs.length := by
  cases h with
  | sending _ hs => rw [supply, hs.length_eq, List.length_append]
  | left _ ht => simp [supply, ht]

/-- Nothing depends on the server's side. -/
theorem Delivers.congr {l' : Link} (h : l.Delivers last bs)
    (hnow : l'.now = l.now) (htimeline : l'.timeline = l.timeline)
    (hinbox : l'.inbox = l.inbox) (htail : l'.tail = l.tail) :
    l'.Delivers last bs := by
  cases h with
  | sending hq hs =>
      rw [← hinbox]
      exact .sending (htail.trans hq) (by rw [hnow, htimeline]; exact hs)
  | left he ht =>
      rw [← hinbox]
      exact .left (htail.trans he) (htimeline.trans ht)

/-- A client that acts delivers what it would have delivered, and touches nothing
on the server's side. -/
theorem Delivers.perform {t : Nat} {act : Act} {rest : List (Nat × Act)}
    (h : l.Delivers last bs) (hl : l.timeline = (t, act) :: rest) :
    ({ l with now := t, timeline := rest }.perform act).Delivers last bs ∧
      SameServer l ({ l with now := t, timeline := rest }.perform act) ∧
      ({ l with now := t, timeline := rest }.perform act).now = t ∧ l.now ≤ t ∧ t ≤ last := by
  cases h with
  | left _ ht => simp [ht] at hl
  | sending hq hs =>
      rw [hl] at hs
      cases hs with
      | leaves hle ht =>
          rw [List.append_nil]
          exact ⟨.left rfl rfl, ⟨rfl, rfl, rfl, rfl, rfl⟩, rfl, hle, ht⟩
      | piece hle ht _ hrest =>
          rw [← List.append_assoc]
          exact ⟨.sending hq hrest, ⟨rfl, rfl, rfl, rfl, rfl⟩, rfl, hle, ht⟩

/-- Time may pass up to the next act. -/
theorem Delivers.later {now : Nat} (h : l.Delivers last bs)
    (hfirst : ∀ e ∈ l.timeline.head?, now ≤ e.1) :
    { l with now := now }.Delivers last bs := by
  cases h with
  | sending hq hs => exact .sending (l := { l with now := now }) hq (hs.later hfirst)
  | left he ht => exact .left (l := { l with now := now }) he ht

/-! ## Waiting -/

theorem await_of_ready {α : Type} {ready : Link → Option α} {d : Option Nat} {a : α}
    (h : ready l = some a) : l.await ready d = (.ready a, l) := by
  rw [await, h]

/-- The next act happens while the server waits. -/
theorem await_of_act {α : Type} {ready : Link → Option α} {d : Option Nat} {t : Nat} {act : Act}
    {rest : List (Nat × Act)} (hr : ready l = none) (hl : l.timeline = (t, act) :: rest)
    (hd : isPast t d = false) (ht : t ≤ l.horizon) :
    l.await ready d = ({ l with now := t, timeline := rest }.perform act).await ready d := by
  rw [await, hr]
  dsimp only
  split
  · simp_all
  · next t' act' rest' hl' =>
      obtain ⟨⟨rfl, rfl⟩, rfl⟩ : (t = t' ∧ act = act') ∧ rest = rest' := by simpa [hl] using hl'
      rw [if_neg (by simp [hd]; omega)]

/-- Waiting is given up when nothing more happens before the deadline or the horizon. -/
theorem await_of_giveUp {α : Type} {ready : Link → Option α} {d : Option Nat}
    (hr : ready l = none)
    (hfirst : ∀ e ∈ l.timeline.head?, (isPast e.1 d || decide (l.horizon < e.1)) = true) :
    l.await ready d = l.giveUp d := by
  rw [await, hr]
  dsimp only
  split
  · rfl
  · next t act rest hl => rw [if_pos (hfirst (t, act) (by rw [hl]; rfl))]

theorem giveUp_of_le {α : Type} {d : Nat} (hnow : l.now ≤ d) (hd : d ≤ l.horizon) :
    l.giveUp (some d) = ((.timeout : Wait α), { l with now := d }) := by
  unfold giveUp
  dsimp only
  rw [if_pos hd, Nat.max_eq_right hnow]

/-- Waiting for what does not come lasts until the deadline, and loses no byte. -/
theorem await_of_delivers {α : Type} (ready : Link → Option α) {d : Nat}
    (hr : ∀ l', SameServer l l' → ready l' = none) (h : l.Delivers last bs)
    (hnow : l.now ≤ d) (hd : d ≤ l.horizon) :
    ∃ l', l.await ready (some d) = (.timeout, l') ∧ SameServer l l' ∧
      l'.Delivers last bs ∧ l'.now = d := by
  fun_induction await ready (some d) l with
  | case1 l a ha =>
      rw [hr l (.refl l)] at ha
      contradiction
  | case2 l _ hl =>
      rw [giveUp_of_le hnow hd]
      exact ⟨_, rfl, ⟨rfl, rfl, rfl, rfl, rfl⟩, h.later (by simp [hl]), rfl⟩
  | case3 l _ t act rest hl hpast =>
      rw [giveUp_of_le hnow hd]
      have hle : d ≤ t := by
        rw [Bool.or_eq_true, decide_eq_true_eq] at hpast
        rcases hpast with hp | hp
        · simpa [isPast] using hp
        · omega
      refine ⟨_, rfl, ⟨rfl, rfl, rfl, rfl, rfl⟩, h.later ?_, rfl⟩
      simpa [hl] using hle
  | case4 l _ t act rest hl hpast ih =>
      obtain ⟨hdel, hsame, ht, _, _⟩ := h.perform hl
      have hlt : t < d := by
        simp only [isPast, Bool.or_eq_true, decide_eq_true_eq, not_or] at hpast
        omega
      obtain ⟨l', hawait, hsame', hdel', hnow'⟩ :=
        ih (fun l' hs => hr l' (hsame.trans hs)) hdel (by omega) (by rw [hsame.horizon]; exact hd)
      exact ⟨l', hawait, hsame.trans hsame', hdel', hnow'⟩

/-- Whatever waiting comes to, it loses no byte. -/
theorem delivers_await {α : Type} (h : l.Delivers last bs) (ready : Link → Option α)
    (d : Option Nat) : (l.await ready d).2.Delivers last bs ∧ SameServer l (l.await ready d).2 := by
  fun_induction await ready d l with
  | case1 l => exact ⟨h, .refl l⟩
  | case2 l _ hl =>
      have hnil : ∀ now : Nat, ∀ e ∈ l.timeline.head?, now ≤ e.1 := by simp [hl]
      unfold giveUp
      split
      · split
        · exact ⟨h.later (hnil _), ⟨rfl, rfl, rfl, rfl, rfl⟩⟩
        · exact ⟨h.later (hnil _), ⟨rfl, rfl, rfl, rfl, rfl⟩⟩
      · exact ⟨h.later (hnil _), ⟨rfl, rfl, rfl, rfl, rfl⟩⟩
  | case3 l _ t act rest hl hpast =>
      have hfirst : ∀ now ≤ t, ∀ e ∈ l.timeline.head?, now ≤ e.1 := by simp [hl]
      have hnow : l.now ≤ t := (h.perform hl).2.2.2.1
      unfold giveUp
      split
      · next d =>
          rw [Bool.or_eq_true, decide_eq_true_eq, isPast, decide_eq_true_eq] at hpast
          split
          · exact ⟨h.later (hfirst _ (by omega)), ⟨rfl, rfl, rfl, rfl, rfl⟩⟩
          · exact ⟨h.later (hfirst _ (by omega)), ⟨rfl, rfl, rfl, rfl, rfl⟩⟩
      · have hlt : l.horizon < t := by simpa [isPast] using hpast
        exact ⟨h.later (hfirst _ (by omega)), ⟨rfl, rfl, rfl, rfl, rfl⟩⟩
  | case4 l _ t act rest hl hpast ih =>
      obtain ⟨hdel, hsame, _⟩ := h.perform hl
      obtain ⟨hdel', hsame'⟩ := ih hdel
      exact ⟨hdel', hsame.trans hsame'⟩

/-! ## Reading -/

variable {interrupt : Link → Bool} {deadline : Option Nat}

theorem receive_of_inbox (hi : interrupt l = false) (hb : l.inbox ≠ []) :
    l.receive deadline interrupt = (.arrived (.bytes (l.inbox.take readSize)),
      { l with inbox := l.inbox.drop readSize }) := by
  have hr : arrivalOr interrupt l = some (some (.bytes (l.inbox.take readSize))) := by
    simp [arrivalOr, arrival?, hi, hb]
  have hdrop : l.inbox.drop (l.inbox.take readSize).length = l.inbox.drop readSize := by
    rw [List.length_take]
    rcases Nat.le_total readSize l.inbox.length with hle | hle
    · rw [Nat.min_eq_left hle]
    · rw [Nat.min_eq_right hle, List.drop_length, List.drop_of_length_le hle]
  rw [receive, await_of_ready hr]
  dsimp only
  rw [hdrop]

/-- A read takes its bytes from the front of what is delivered. -/
theorem Delivers.drop_inbox (h : l.Delivers last bs) (n : Nat) :
    ∃ bs', bs = l.inbox.take n ++ bs' ∧
      { l with inbox := l.inbox.drop n }.Delivers last bs' := by
  cases h with
  | @sending later hq hs =>
      refine ⟨l.inbox.drop n ++ later, ?_, .sending (l := { l with inbox := _ }) hq hs⟩
      rw [← List.append_assoc, List.take_append_drop]
  | left he ht =>
      exact ⟨l.inbox.drop n, (List.take_append_drop _ _).symm,
        .left (l := { l with inbox := l.inbox.drop n }) he ht⟩

/-- Nothing is read before the next act. -/
theorem receive_of_act {t : Nat} {act : Act} {rest : List (Nat × Act)} (hi : interrupt l = false)
    (hb : l.inbox = []) (hq : l.tail = .quiet) (hl : l.timeline = (t, act) :: rest)
    (hd : isPast t deadline = false) (ht : t ≤ l.horizon) :
    l.receive deadline interrupt =
      ({ l with now := t, timeline := rest }.perform act).receive deadline interrupt := by
  have hr : arrivalOr interrupt l = none := by simp [arrivalOr, arrival?, hi, hb, hq]
  rw [receive, await_of_act hr hl hd ht, ← receive]

/-- A read whose deadline comes before the next act gives up. -/
theorem receive_of_past {t d : Nat} {act : Act} {rest : List (Nat × Act)}
    (hi : interrupt l = false) (hb : l.inbox = []) (hq : l.tail = .quiet)
    (hl : l.timeline = (t, act) :: rest) (hd : d ≤ t) (ht : t ≤ l.horizon) :
    (l.receive (some d) interrupt).1 = .timeout := by
  have hr : arrivalOr interrupt l = none := by simp [arrivalOr, arrival?, hi, hb, hq]
  have hawait : l.await (arrivalOr interrupt) (some d) = l.giveUp (some d) :=
    await_of_giveUp hr (by simp [hl, isPast, hd])
  have hle : d ≤ l.horizon := Nat.le_trans hd ht
  simp only [receive, hawait, giveUp, hle, if_true]

/-- A read that does not time out gives bytes of a client that still delivers some. -/
theorem receive_of_delivers (hi : ∀ l', SameServer l l' → interrupt l' = false)
    (h : l.Delivers last bs) (hb : bs ≠ []) (hlast : last ≤ l.horizon)
    (hd : ∀ d, deadline = some d → (l.receive deadline interrupt).1 ≠ .timeout) :
    ∃ p l' bs', l.receive deadline interrupt = (.arrived (.bytes p), l') ∧ p ≠ [] ∧
      bs = p ++ bs' ∧ l'.Delivers last bs' ∧ SameServer l l' ∧ l'.now ≤ max l.now last := by
  have htake : ∀ bs : Bytes, bs ≠ [] → bs.take readSize ≠ [] := by
    intro bs hne
    simpa [List.take_eq_nil_iff, readSize] using hne
  by_cases hin : l.inbox = []
  · -- the next act brings the bytes
    cases h with
    | left => contradiction
    | @sending later hq hs =>
        rw [hin, List.nil_append] at hb
        generalize htl : l.timeline = timeline at hs
        cases hs with
        | leaves => contradiction
        | @piece _ t p bs' rest hle ht hp hrest =>
            have hnot : isPast t deadline = false := by
              cases deadline with
              | none => rfl
              | some d =>
                  rcases Nat.lt_or_ge t d with hlt | hge
                  · simpa [isPast] using hlt
                  · have hpast := receive_of_past (hi l (.refl l)) hin hq htl hge (by omega)
                    exact absurd hpast (hd d rfl)
            let l₁ : Link := { l with now := t, timeline := rest }.perform (.bytes p)
            have hinbox : l₁.inbox = p := by
              show l.inbox ++ p = p
              rw [hin, List.nil_append]
            have hsame : SameServer l l₁ := ⟨rfl, rfl, rfl, rfl, rfl⟩
            have hdel : l₁.Delivers last (p ++ bs') := by
              rw [← hinbox]
              exact .sending hq hrest
            obtain ⟨bs'', hbs, hdel'⟩ := hdel.drop_inbox readSize
            rw [receive_of_act (hi l (.refl l)) hin hq htl hnot (by omega),
              receive_of_inbox (hi _ hsame) (by rw [hinbox]; exact hp)]
            refine ⟨_, _, bs'', rfl, htake _ (by rw [hinbox]; exact hp), ?_, hdel', ?_, ?_⟩
            · rw [hin, List.nil_append]
              exact hbs
            · exact hsame.trans ⟨rfl, rfl, rfl, rfl, rfl⟩
            · show t ≤ max l.now last
              omega
  · obtain ⟨bs', hbs, hdel⟩ := h.drop_inbox readSize
    exact ⟨_, _, bs', receive_of_inbox (hi l (.refl l)) hin, htake _ hin, hbs, hdel,
      ⟨rfl, rfl, rfl, rfl, rfl⟩, Nat.le_max_left _ _⟩

/-- Without a deadline waiting does not time out. -/
theorem await_none_ne_timeout {α : Type} (ready : Link → Option α) (l : Link) :
    (l.await ready none).1 ≠ .timeout := by
  fun_induction Link.await ready none l with
  | case1 => simp
  | case2 | case3 => simp [giveUp]
  | case4 _ _ _ _ _ _ _ ih => exact ih

/-- A read without a deadline gives bytes from the front of what is delivered, or finds that
the client has left and nothing more is delivered, or waits for ever. -/
theorem receive_none_of_delivers (hi : ∀ l', SameServer l l' → interrupt l' = false)
    (h : l.Delivers last bs) :
    SameServer l (l.receive none interrupt).2 ∧
      ((∃ p bs', (l.receive none interrupt).1 = .arrived (.bytes p) ∧ bs = p ++ bs' ∧
          (l.receive none interrupt).2.Delivers last bs') ∨
        ((l.receive none interrupt).1 = .arrived .eof ∧ bs = [] ∧
          (l.receive none interrupt).2.Delivers last []) ∨
        (l.receive none interrupt).1 = .stuck) := by
  obtain ⟨hdel, hsame⟩ := delivers_await h (arrivalOr interrupt) none
  have htimeout := await_none_ne_timeout (arrivalOr interrupt) l
  unfold receive
  split
  · next a l' hawait =>
      rw [hawait] at hdel hsame
      have hready := await_ready hawait
      simp only [arrivalOr, hi l' hsame, Bool.false_eq_true, if_false, Option.map_eq_some_iff,
        Option.some.injEq, exists_eq_right, arrival?] at hready
      split at hready
      · next hempty =>
          have hin : l'.inbox = [] := List.isEmpty_iff.1 hempty
          split at hready
          · contradiction
          · next htail =>
              obtain rfl := Option.some.inj hready
              cases hdel with
              | sending hq _ => simp [htail] at hq
              | left he ht =>
                  refine ⟨hsame, .inr (.inl ⟨rfl, hin, ?_⟩)⟩
                  rw [← hin]
                  exact .left he ht
          · next htail => cases hdel <;> simp_all
      · obtain rfl := Option.some.inj hready
        obtain ⟨bs', hbs, hdel'⟩ := hdel.drop_inbox (l'.inbox.take readSize).length
        have htake : l'.inbox.take (l'.inbox.take readSize).length = l'.inbox.take readSize := by
          rw [List.length_take, ← List.take_eq_take_min]
        exact ⟨hsame.trans ⟨rfl, rfl, rfl, rfl, rfl⟩,
          .inl ⟨_, bs', rfl, hbs.trans (congrArg (· ++ bs') htake), hdel'⟩⟩
  · next l' hawait =>
      rw [hawait] at hsame
      have hready := await_ready hawait
      simp [arrivalOr, hi l' hsame] at hready
  · next l' hawait => exact absurd (congrArg Prod.fst hawait) htimeout
  · next l' hawait =>
      rw [hawait] at hsame
      exact ⟨hsame, .inr (.inr rfl)⟩

/-- A client that delivers nothing more has left, or leaves while it is waited for. -/
theorem receive_of_delivers_nil (hi : ∀ l', SameServer l l' → interrupt l' = false)
    (h : l.Delivers last []) (hlast : last ≤ l.horizon) :
    ∃ l', l.receive none interrupt = (.arrived .eof, l') ∧ SameServer l l' := by
  have hleft : ∀ l' : Link, SameServer l l' → l'.inbox = [] → l'.tail = .eof →
      l'.receive none interrupt = (.arrived .eof, l') := by
    intro l' hsame hin ht
    have hr : arrivalOr interrupt l' = some (some .eof) := by
      simp [arrivalOr, arrival?, hi l' hsame, hin, ht]
    rw [receive, await_of_ready hr]
  generalize hbs : ([] : Bytes) = bs at h
  cases h with
  | left he _ => exact ⟨l, hleft l (.refl l) hbs.symm he, .refl l⟩
  | @sending later hq hs =>
      obtain ⟨hin, hlater⟩ : l.inbox = [] ∧ later = [] := List.append_eq_nil_iff.1 hbs.symm
      generalize htl : l.timeline = timeline at hs
      cases hs with
      | @leaves _ t hle ht =>
          have hsame : SameServer l ({ l with now := t, timeline := [] }.perform .eof) :=
            ⟨rfl, rfl, rfl, rfl, rfl⟩
          rw [receive_of_act (hi l (.refl l)) hin hq htl rfl (by omega), hleft _ hsame hin rfl]
          exact ⟨_, rfl, hsame⟩
      | piece _ _ hp _ => exact absurd (List.append_eq_nil_iff.1 hlater).1 hp

end Client

end Link

end WebServer
