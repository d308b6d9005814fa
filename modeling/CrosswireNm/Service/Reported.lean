import CrosswireNm.PppdPlugin.IpUp
import CrosswireNm.Service.PluginRuns

/-!
# NetworkManager learns the addresses before it is told the tunnel is up

The pppd of a session makes the calls of `nm_ip_up` one by one, each awaited; the service re-emits
what they say, and announces `Started` from the last.
-/

namespace CrosswireNm.Service

open Library

def callMessage (i : Nat) (call : PppdPlugin.Call) : Option Message :=
  if call.method = "SetConfig" then some (.setConfig i)
  else if call.method = "SetIp4Config" then some (.setIp4Config i)
  else none

/-- Where a pppd is in its calls: about to make the next one, or waiting for the reply of one that
`handler`, once dispatched, is at work on. -/
inductive Pppd
  | ready (rest : List PppdPlugin.Call)
  | calling (call : PppdPlugin.Call) (handler : Option Nat) (rest : List PppdPlugin.Call)

structure Bus where
  plugin : Plugin
  pppds : Nat → Pppd

def Bus.start (pppdPlugin ifname : String) : Bus :=
  ⟨.start pppdPlugin ifname, fun _ => .ready []⟩

def Bus.setPppd (s : Bus) (i : Nat) (pppd : Pppd) : Bus :=
  { s with pppds := Function.update s.pppds i pppd }

inductive BusLabel
  /-- a step of the service, a late dispatch included, that no pppd's call is -/
  | service (label : Label)
  /-- the interface of a session comes up, and pppd calls `nm_ip_up` -/
  | ipUp (i : Nat) (pppd : PppdPlugin.Pppd) (bus : Bool)
      (ifaddrs : Option (List PppdPlugin.Ifaddrs))
  | call (i : Nat)
  | dispatch (i h : Nat)
  /-- the handler has returned -/
  | reply (i : Nat)
  /-- the call fails or times out: `call_service` warns and returns -/
  | giveUp (i : Nat)
  /-- pppd dies -/
  | ends (i : Nat)

def busStep : Step Bus BusLabel Event := fun s label =>
  match label with
  | .service label =>
    match label with
    | .send _ => none
    | label => (s.plugin.step label).map fun (plugin, out) => ({ s with plugin }, out)
  | .ipUp i pppd bus ifaddrs =>
    match s.pppds i with
    | .ready [] => some (s.setPppd i (.ready (PppdPlugin.nmIpUp pppd bus ifaddrs)), [])
    | _ => none
  | .call i =>
    match s.pppds i with
    | .ready (call :: rest) =>
      match callMessage i call with
      | some message => (s.plugin.step (.send message)).map fun (plugin, out) =>
          ({ s with plugin }.setPppd i (.calling call none rest), out)
      | none => none
    | _ => none
  | .dispatch i h =>
    match s.pppds i with
    | .calling call none rest =>
      match callMessage i call with
      | some message => (s.plugin.step (.deliver h message)).map fun (plugin, out) =>
          ({ s with plugin }.setPppd i (.calling call (some h) rest), out)
      | none => none
    | _ => none
  | .reply i =>
    match s.pppds i with
    | .calling _ (some h) rest =>
      if s.plugin.tasks h = .finished then some (s.setPppd i (.ready rest), []) else none
    | _ => none
  | .giveUp i =>
    match s.pppds i with
    | .calling _ _ rest => some (s.setPppd i (.ready rest), [])
    | _ => none
  | .ends i => some (s.setPppd i (.ready []), [])

inductive Bus.Moves : Bus → BusLabel → Bus → List Event → Prop
  | service {s : Bus} {label : Label} {u : Plugin} {out : List Event} :
      (∀ message, label ≠ .send message) → s.plugin.Moves label u out →
      Moves s (.service label) { s with plugin := u } out
  | ipUp {s : Bus} {i : Nat} {pppd : PppdPlugin.Pppd} {bus : Bool}
      {ifaddrs : Option (List PppdPlugin.Ifaddrs)} : s.pppds i = .ready [] →
      Moves s (.ipUp i pppd bus ifaddrs)
        (s.setPppd i (.ready (PppdPlugin.nmIpUp pppd bus ifaddrs))) []
  | call {s : Bus} {i : Nat} {call : PppdPlugin.Call} {rest : List PppdPlugin.Call}
      {message : Message} {u : Plugin} {out : List Event} : s.pppds i = .ready (call :: rest) →
      callMessage i call = some message → s.plugin.Moves (.send message) u out →
      Moves s (.call i) ({ s with plugin := u }.setPppd i (.calling call none rest)) out
  | dispatch {s : Bus} {i h : Nat} {call : PppdPlugin.Call} {rest : List PppdPlugin.Call}
      {message : Message} {u : Plugin} {out : List Event} :
      s.pppds i = .calling call none rest → callMessage i call = some message →
      s.plugin.Moves (.deliver h message) u out →
      Moves s (.dispatch i h) ({ s with plugin := u }.setPppd i (.calling call (some h) rest)) out
  | reply {s : Bus} {i h : Nat} {call : PppdPlugin.Call} {rest : List PppdPlugin.Call} :
      s.pppds i = .calling call (some h) rest → s.plugin.tasks h = .finished →
      Moves s (.reply i) (s.setPppd i (.ready rest)) []
  | giveUp {s : Bus} {i : Nat} {call : PppdPlugin.Call} {handler : Option Nat}
      {rest : List PppdPlugin.Call} : s.pppds i = .calling call handler rest →
      Moves s (.giveUp i) (s.setPppd i (.ready rest)) []
  | ends {s : Bus} {i : Nat} : Moves s (.ends i) (s.setPppd i (.ready [])) []

theorem busStep_moves {s t : Bus} {label : BusLabel} {out : List Event}
    (h : busStep s label = some (t, out)) : s.Moves label t out := by
  cases label with
  | service label =>
    cases label with
    | send => cases h
    | _ =>
      obtain ⟨⟨u, out'⟩, hmove, heq⟩ := Option.map_eq_some_iff.mp h
      obtain ⟨rfl, rfl⟩ := Prod.mk.inj heq
      exact .service (by simp) (Plugin.step_moves hmove)
  | ipUp i pppd bus ifaddrs =>
    simp only [busStep] at h
    split at h <;> cases h
    exact .ipUp ‹_›
  | call i =>
    simp only [busStep] at h
    split at h
    · split at h
      · obtain ⟨⟨u, out'⟩, hmove, heq⟩ := Option.map_eq_some_iff.mp h
        obtain ⟨rfl, rfl⟩ := Prod.mk.inj heq
        exact .call ‹_› ‹_› (Plugin.step_moves hmove)
      · cases h
    · cases h
  | dispatch i handler =>
    simp only [busStep] at h
    split at h
    · split at h
      · obtain ⟨⟨u, out'⟩, hmove, heq⟩ := Option.map_eq_some_iff.mp h
        obtain ⟨rfl, rfl⟩ := Prod.mk.inj heq
        exact .dispatch ‹_› ‹_› (Plugin.step_moves hmove)
      · cases h
    · cases h
  | reply i =>
    simp only [busStep] at h
    split at h
    · split at h <;> cases h
      exact .reply ‹_› ‹_›
    · cases h
  | giveUp i =>
    simp only [busStep] at h
    split at h <;> cases h
    exact .giveUp ‹_›
  | ends i =>
    cases h
    exact .ends

/-- No `SetConfig` call fails or times out. -/
def setConfigReplied (_ : List Event) (s : Bus) (label : BusLabel) : Prop :=
  ∀ i call handler rest, label = .giveUp i → s.pppds i = .calling call handler rest →
    call.method ≠ "SetConfig"

/-- What has been re-emitted for each `SetIp4Config` on its way. -/
structure Plugin.Emitted (history : List Event) (s : Plugin) : Prop where
  inflight : ∀ i, .setIp4Config i ∈ s.inflight → ∃ host, .config i host ∈ history
  handled : ∀ h i, (s.tasks h).ip4 = some i → ∃ host, .config i host ∈ history
  reported : ∀ h i, s.tasks h = .ip4Started i → .ip4Config i ∈ history

section Steps

variable {s t : Plugin} {label : Label} {out history : List Event} {h i : Nat}

private theorem Plugin.Moves.inflight_new (hmoves : s.Moves label t out) {message : Message}
    (hmem : message ∈ t.inflight) : message ∈ s.inflight ∨ label = .send message := by
  cases hmoves with
  | send =>
    rcases List.mem_cons.mp hmem with rfl | hold
    · exact Or.inr rfl
    · exact Or.inl hold
  | deliver => exact Or.inl (List.mem_of_mem_erase hmem)
  | _ => exact Or.inl (by simpa using hmem)

private theorem Task.Next.of_ip4Started {k : Nat} {task : Task}
    (hnext : Task.Next k label task (.ip4Started i)) : label = .task k ∧ task = .ip4Config i := by
  generalize hnow : Task.ip4Started i = now at hnext
  cases hnext with
  | ip4Config =>
    cases hnow
    exact ⟨rfl, rfl⟩
  | @deliver message => cases message <;> cases hnow
  | @takeNone goal | @release goal => cases goal <;> cases hnow
  | _ => cases hnow

private theorem Plugin.Moves.ip4Config_emits (hmoves : s.Moves (.task h) t out)
    (htask : s.tasks h = .ip4Config i) : out = [.ip4Config i] := by
  cases hmoves <;> simp_all

private theorem Plugin.Moves.emitted (hmoves : s.Moves label t out) (hs : s.Emitted history)
    (hsend : ∀ i, label = .send (.setIp4Config i) → ∃ host, .config i host ∈ history) :
    t.Emitted (history ++ out) where
  inflight := by
    intro i hmem
    have hbefore : ∃ host, .config i host ∈ history := by
      rcases hmoves.inflight_new hmem with hold | rfl
      · exact hs.inflight i hold
      · exact hsend i rfl
    exact hbefore.imp (fun host hhost => List.mem_append_left _ hhost)
  handled := by
    intro h i hip
    have hbefore : ∃ host, .config i host ∈ history := by
      rcases hmoves.task h with hsame | hnext
      · exact hs.handled h i (hsame ▸ hip)
      · rcases hnext.ip4 hip with hold | rfl
        · exact hs.handled h i hold
        · cases hmoves with
          | deliver _ hmem => exact hs.inflight i hmem
    exact hbefore.imp (fun host hhost => List.mem_append_left _ hhost)
  reported := by
    intro h i htask
    rcases hmoves.task h with hsame | hnext
    · exact List.mem_append_left _ (hs.reported h i (hsame.symm.trans htask))
    · rw [htask] at hnext
      obtain ⟨rfl, hbefore⟩ := hnext.of_ip4Started
      rw [hmoves.ip4Config_emits hbefore]
      exact List.mem_append_right _ (List.mem_singleton.mpr rfl)

private theorem Plugin.Moves.ip4Config_emitter {pre post : List Event}
    (hmoves : s.Moves label t (pre ++ .ip4Config i :: post)) :
    pre = [] ∧ ∃ h, s.tasks h = .ip4Config i := by
  generalize hout : pre ++ .ip4Config i :: post = emitted at hmoves
  have hmem : Event.ip4Config i ∈ emitted := by simp [← hout]
  cases hmoves with
  | @ip4Config h k htask =>
    obtain rfl : i = k := by simpa using hmem
    cases pre with
    | nil => exact ⟨rfl, h, htask⟩
    | cons => simp at hout
  | _ => simp [Plugin.drive] at hmem

private theorem Plugin.Moves.started_emitter {cause : Cause} {pre post : List Event}
    (hmoves : s.Moves label t (pre ++ .signal cause (.stateChanged .started) :: post)) :
    pre = [] ∧ ∃ h i, s.tasks h = .ip4Started i ∧ cause = .setIp4Config i := by
  obtain ⟨hpre, _, hcall, _⟩ := hmoves.announces (by decide)
  refine ⟨hpre, ?_⟩
  obtain ⟨h, i, _, htask, hcause⟩ := Plugin.call_started hcall
  exact ⟨h, i, htask, hcause⟩

end Steps

def Plugin.Configures (history : List Event) (s : Plugin) (h i : Nat) : Prop :=
  s.tasks h = .readGateway i ∨ (∃ host, s.tasks h = .resolve i host) ∨
    (s.tasks h = .finished ∧ ∃ host, .config i host ∈ history)

section Configures

variable {s t : Plugin} {label : Label} {out history : List Event} {h i : Nat}

private theorem Task.Next.configOwn {k : Nat} {task next : Task}
    (hnext : Task.Next k label task next)
    (htask : task = .readGateway i ∨ ∃ host, task = .resolve i host) : label = .task k := by
  cases hnext with
  | readGateway | readGatewayNone | resolve => rfl
  | _ => simp at htask

private theorem Plugin.Moves.configures_own (hmoves : s.Moves (.task h) t out)
    (htask : s.tasks h = .readGateway i ∨ ∃ host, s.tasks h = .resolve i host) :
    t.Configures out h i := by
  rcases htask with htask | ⟨host, htask⟩
  · cases hmoves with
    | @readGateway _ session host hread =>
      obtain rfl : session = i := by simpa [htask] using hread.symm
      exact Or.inr (Or.inl ⟨host, by simp⟩)
    | @readGatewayNone _ session hread =>
      obtain rfl : session = i := by simpa [htask] using hread.symm
      exact Or.inr (Or.inr ⟨by simp, none, by simp⟩)
    | _ => simp_all
  · cases hmoves with
    | @resolve _ session host' hresolve =>
      obtain ⟨rfl, rfl⟩ : session = i ∧ host' = host := by simpa [htask] using hresolve.symm
      exact Or.inr (Or.inr ⟨by simp, some host', by simp⟩)
    | _ => simp_all

theorem Plugin.Configures.mono {more : List Event} (hs : s.Configures out h i)
    (hmore : ∀ event ∈ out, event ∈ more) : s.Configures more h i :=
  hs.imp id (fun hs => hs.imp id (fun ⟨hfinished, host, hmem⟩ =>
    ⟨hfinished, host, hmore _ hmem⟩))

theorem Plugin.Moves.configures (hmoves : s.Moves label t out) (hs : s.Configures history h i) :
    t.Configures (history ++ out) h i := by
  rcases hmoves.task h with hsame | hnext
  · have ht : t.Configures history h i := by
      unfold Plugin.Configures
      rwa [hsame]
    exact ht.mono (fun _ hmem => List.mem_append_left out hmem)
  · have htask : s.tasks h = .readGateway i ∨ ∃ host, s.tasks h = .resolve i host := by
      rcases hs with hread | hresolve | ⟨hfinished, _⟩
      · exact Or.inl hread
      · exact Or.inr hresolve
      · rw [hfinished] at hnext
        cases hnext
    obtain rfl := hnext.configOwn htask
    exact (hmoves.configures_own htask).mono (fun _ hmem => List.mem_append_right history hmem)

end Configures

inductive Pppd.Owed (history : List Event) (s : Plugin) (i : Nat) : Pppd → Prop
  | done : Owed history s i (.ready [])
  | both (config ip4 : PppdPlugin.Asv) :
      Owed history s i (.ready [⟨"SetConfig", config⟩, ⟨"SetIp4Config", ip4⟩])
  | configuring {handler : Option Nat} (config ip4 : PppdPlugin.Asv) :
      (∀ h, handler = some h → s.Configures history h i) →
      Owed history s i (.calling ⟨"SetConfig", config⟩ handler [⟨"SetIp4Config", ip4⟩])
  | configured (ip4 : PppdPlugin.Asv) : (∃ host, .config i host ∈ history) →
      Owed history s i (.ready [⟨"SetIp4Config", ip4⟩])
  | reporting {handler : Option Nat} (ip4 : PppdPlugin.Asv) :
      Owed history s i (.calling ⟨"SetIp4Config", ip4⟩ handler [])

/-- What has been re-emitted for what the pppds have said, and what they have yet to say. -/
structure Bus.Told (history : List Event) (s : Bus) : Prop where
  emitted : s.plugin.Emitted history
  owed : ∀ i, (s.pppds i).Owed history s.plugin i

section Bus

variable {history out : List Event} {i : Nat}

theorem Pppd.Owed.step {s t : Plugin} {label : Label} {pppd : Pppd}
    (h : pppd.Owed history s i) (hmoves : s.Moves label t out) :
    pppd.Owed (history ++ out) t i := by
  cases h with
  | done => exact .done
  | both config ip4 => exact .both config ip4
  | configuring config ip4 hhandler =>
    exact .configuring config ip4 (fun h hh => hmoves.configures (hhandler h hh))
  | configured ip4 hconfig =>
    exact .configured ip4 (hconfig.imp (fun _ hmem => List.mem_append_left out hmem))
  | reporting ip4 => exact .reporting ip4

theorem Bus.Told.setPppd {s : Bus} {pppd : Pppd} (hs : s.Told history)
    (hpppd : pppd.Owed history s.plugin i) : (s.setPppd i pppd).Told history where
  emitted := hs.emitted
  owed := by
    intro k
    simp only [Bus.setPppd, Function.update_apply]
    split
    · rename_i hk
      subst hk
      exact hpppd
    · exact hs.owed k

theorem Bus.Told.plugin {s : Bus} {t : Plugin} {label : Label} (hs : s.Told history)
    (hmoves : s.plugin.Moves label t out)
    (hsend : ∀ i, label = .send (.setIp4Config i) → ∃ host, .config i host ∈ history) :
    Bus.Told (history ++ out) { s with plugin := t } where
  emitted := hmoves.emitted hs.emitted hsend
  owed := fun i => (hs.owed i).step hmoves

theorem Bus.Moves.told {s t : Bus} {label : BusLabel} (h : s.Moves label t out)
    (hs : s.Told history) (hallowed : setConfigReplied history s label) :
    t.Told (history ++ out) := by
  cases h with
  | service hnosend hmoves =>
    exact hs.plugin hmoves (fun i hlabel => absurd hlabel (hnosend _))
  | @ipUp i pppd bus ifaddrs hpppd =>
    rw [List.append_nil]
    refine hs.setPppd ?_
    rcases PppdPlugin.nmIpUp_order pppd bus ifaddrs with hnone | ⟨config, ip4, hboth⟩
    · rw [hnone]
      exact .done
    · rw [hboth]
      exact .both config ip4
  | @call i call rest message u out hpppd hmessage hmoves =>
    have howed := hs.owed i
    rw [hpppd] at howed
    cases howed with
    | both config ip4 =>
      obtain rfl : Message.setConfig i = message := Option.some.inj hmessage
      exact (hs.plugin hmoves (by simp)).setPppd (.configuring config ip4 (by simp))
    | configured ip4 hconfig =>
      obtain rfl : Message.setIp4Config i = message := Option.some.inj hmessage
      refine (hs.plugin hmoves (fun k hk => ?_)).setPppd (.reporting ip4)
      obtain rfl : i = k := by simpa using hk
      exact hconfig
  | @dispatch i h call rest message u out hpppd hmessage hmoves =>
    have howed := hs.owed i
    rw [hpppd] at howed
    refine (hs.plugin hmoves (by simp)).setPppd ?_
    cases howed with
    | configuring config ip4 =>
      obtain rfl : Message.setConfig i = message := Option.some.inj hmessage
      refine .configuring config ip4 (fun k hk => Or.inl ?_)
      obtain rfl := Option.some.inj hk
      cases hmoves with
      | deliver => simp [Message.task]
    | reporting ip4 => exact .reporting ip4
  | @reply i h call rest hpppd hfinished =>
    have howed := hs.owed i
    rw [List.append_nil]
    refine hs.setPppd ?_
    rw [hpppd] at howed
    cases howed with
    | configuring config ip4 hhandler =>
      rcases hhandler h rfl with hread | ⟨host, hresolve⟩ | ⟨_, hconfig⟩
      · simp [hfinished] at hread
      · simp [hfinished] at hresolve
      · exact .configured ip4 hconfig
    | reporting => exact .done
  | @giveUp i call handler rest hpppd =>
    have howed := hs.owed i
    rw [List.append_nil]
    refine hs.setPppd ?_
    rw [hpppd] at howed
    cases howed with
    | configuring => exact absurd rfl (hallowed i _ _ _ rfl hpppd)
    | reporting => exact .done
  | ends =>
    rw [List.append_nil]
    exact hs.setPppd .done

/-- What is emitted, a step of the service emits. -/
theorem Bus.Moves.service_emits {s t : Bus} {label : BusLabel} {e : Event}
    (h : s.Moves label t out) (hmem : e ∈ out) : ∃ label', s.plugin.Moves label' t.plugin out := by
  cases h with
  | service _ hmoves | call _ _ hmoves | dispatch _ _ hmoves => exact ⟨_, hmoves⟩
  | _ => cases hmem

end Bus

theorem bus_told {pppdPlugin ifname : String} {history : List Event} {s : Bus}
    (run : Run busStep setConfigReplied (.start pppdPlugin ifname) history s) :
    s.Told history := by
  refine run.invariant (fun history s => s.Told history) ⟨⟨?_, ?_, ?_⟩, fun _ => .done⟩ ?_
  · intro i hmem
    cases hmem
  · intro h i hip
    cases hip
  · intro h i htask
    cases htask
  · intro history s label t out hs hallowed hstep
    exact (busStep_moves hstep).told hs hallowed

/-- Whatever else interleaves, each `StateChanged(Started)` comes after the `Ip4Config` signal of
the same session, and that one after the session's `Config`, if no `SetConfig` call of a pppd fails
or times out. -/
theorem started_reported {pppdPlugin ifname : String} {history : List Event} {s : Bus}
    (run : Run busStep setConfigReplied (.start pppdPlugin ifname) history s)
    {before after : List Event} {cause : Cause}
    (hsplit : history = before ++ .signal cause (.stateChanged .started) :: after) :
    ∃ i host first second third, cause = .setIp4Config i ∧
      before = first ++ .config i host :: second ++ .ip4Config i :: third := by
  obtain ⟨past, u, label, v, pre, post, hpast, _, hstep, rfl⟩ := run.emitted hsplit
  obtain ⟨_, hmoves⟩ := (busStep_moves hstep).service_emits (List.mem_append_right pre
    List.mem_cons_self)
  obtain ⟨rfl, h, i, htask, rfl⟩ := hmoves.started_emitter
  obtain ⟨front, third, hfront⟩ :=
    List.append_of_mem ((bus_told hpast).emitted.reported h i htask)
  obtain ⟨past', u', label', v', pre', post', hpast', _, hstep', hbefore⟩ := hpast.emitted hfront
  obtain ⟨_, hmoves'⟩ := (busStep_moves hstep').service_emits (List.mem_append_right pre'
    List.mem_cons_self)
  obtain ⟨rfl, h', htask'⟩ := hmoves'.ip4Config_emitter
  obtain ⟨host, hhost⟩ := (bus_told hpast').emitted.handled h' i (by rw [htask']; rfl)
  obtain ⟨first, second, hfirst⟩ := List.append_of_mem hhost
  refine ⟨i, host, first, second, third, rfl, ?_⟩
  rw [List.append_nil] at hbefore
  rw [List.append_nil, hfront, hbefore, hfirst]

def reportedUp : List BusLabel :=
  (connectLabels 0 (samlConnection "vpn.example")).map .service ++
    [.ipUp 0 PppdPlugin.splitPppd true
      (some [⟨PppdPlugin.splitPppd.ifname, some ⟨true, 0x0a000001⟩, none⟩]),
      .call 0, .dispatch 0 1, .service (.task 1), .service (.task 1), .reply 0,
      .call 0, .dispatch 0 2, .service (.task 2), .service (.task 2), .reply 0]

theorem started_reported_reportedUp :
    ∃ history s, Run busStep setConfigReplied (.start "plugin.so" "ppp0") history s ∧
      ∃ before, history = before ++ [.signal (.setIp4Config 0) (.stateChanged .started)] ∧
        ∃ i host first second third, Cause.setIp4Config 0 = .setIp4Config i ∧
          before = first ++ .config i host :: second ++ .ip4Config i :: third := by
  obtain ⟨history, s, hexec, hhistory⟩ : ∃ history s,
      exec busStep (fun _ _ label => match label with
          | .giveUp _ => false
          | _ => true) [] (.start "plugin.so" "ppp0") reportedUp = some (history, s) ∧
      history = [.signal (.connect 0) (.stateChanged .starting),
        .config 0 (some "vpn.example"), .ip4Config 0] ++
        [.signal (.setIp4Config 0) (.stateChanged .started)] := ⟨_, _, rfl, rfl⟩
  have run : Run busStep setConfigReplied (.start "plugin.so" "ppp0") history s := by
    refine exec_run (fun history s label hok => ?_) .refl hexec
    rintro i call handler rest rfl -
    cases hok
  exact ⟨history, s, run, _, hhistory, started_reported run hhistory⟩

end CrosswireNm.Service
