import CrosswireNm.Service.Held

/-!
# A replaced session is silent

A watcher reports to the one state machine of the service, whichever session that is about by
then. What keeps an old watcher from it is `stop()`, which waits for it no longer than its limit.
-/

namespace CrosswireNm.Service

open Library

/-- The watcher will leave without a report: it has left its loop for a request, or will find one
(or a closed channel) the next time it polls, and polls before it looks at anything else. -/
def Watcher.Silent (w : Watcher) : Prop :=
  w.point.over = true ∨ w.point.serving = true ∨
    (w.recv ≠ .pending ∧
      (w.point = .stopPoll ∨ w.point = .backoffStopPoll ∨ w.point = .feeding))

/-- When a `Connect` takes the state machine to `Starting`, the watchers whose `stop()` ran into
its limit are silent. -/
def rearmsSilent (history : List Event) (s : Plugin) (label : Label) : Prop :=
  ∀ h, label = .task h → ∀ launch, s.tasks h = .enterStarting launch →
    legal s.inner.state .starting = true → ∀ i, .stopReturned i false ∈ history →
      ∀ session, s.sessions i = some session → session.watcher.Silent

/-- After the `stop()` of a session has returned and a later `Connect` has taken the state machine
to `Starting`, the session's watcher causes no signal. -/
def OldSilent (history : List Event) : Prop :=
  ∀ before after h i timely,
    history = before ++ .signal (.connect h) (.stateChanged .starting) :: after →
    .stopReturned i timely ∈ before → ∀ signal, .signal (.watcher i) signal ∉ after

section Watchers

variable {w v : Watcher} {state : ServiceState}

private theorem Watcher.Moves.silent {act : Act} {out : List WatcherEvent} (h : w.Moves act v out)
    (hw : w.Silent) : v.Silent := by
  rcases hw with hover | hserving | ⟨hrecv, hpoint⟩
  · exact Or.inl (h.over hover).1
  · cases h with
    | exits | line => exact Or.inr (Or.inl hserving)
    | termTimeout => exact Or.inr (Or.inl rfl)
    | reap => exact Or.inl rfl
    | _ => simp_all [Point.serving]
  · cases h with
    | exits | line => exact Or.inr (Or.inr ⟨hrecv, hpoint⟩)
    | noStop _ hpending | backoffNoStop _ hpending => exact absurd hpending hrecv
    | stop | closed => exact Or.inr (Or.inl rfl)
    | backoffStop | backoffClosed | reap => exact Or.inl rfl
    | feed => exact Or.inr (Or.inr ⟨hrecv, Or.inl rfl⟩)
    | _ => simp_all

theorem Watcher.Next.silent (h : w.Next state v) (hw : w.Silent) : v.Silent := by
  cases h with
  | same => exact hw
  | moves _ hmoves => exact hmoves.silent hw
  | sent =>
    rcases hw with hover | hserving | ⟨_, hpoint⟩
    · exact Or.inl hover
    · exact Or.inr (Or.inl hserving)
    · exact Or.inr (Or.inr ⟨nofun, hpoint⟩)
  | dropped =>
    rcases hw with hover | hserving | ⟨_, hpoint⟩
    · exact Or.inl hover
    · exact Or.inr (Or.inl hserving)
    · exact Or.inr (Or.inr ⟨Watcher.recv_dropSender w, hpoint⟩)
  | started hpoint => simp [Watcher.Silent, hpoint, Point.over, Point.serving] at hw

theorem Watcher.Silent.no_report {report : Report} (h : w.Silent) : w.point ≠ report.point := by
  intro hpoint
  cases report <;> simp [Watcher.Silent, hpoint, Report.point, Point.over, Point.serving] at h

end Watchers

section Steps

variable {s t : Plugin} {label : Label} {out : List Event} {i : Nat}

private theorem Plugin.call_watcher {call : Call} (h : s.call label = some (.watcher i, call)) :
    ∃ session report, s.sessions i = some session ∧
      session.watcher.point = Report.point report := by
  cases Plugin.call_calls h with
  | report report hsession hpoint => exact ⟨_, report, hsession, hpoint⟩

private theorem Plugin.Moves.silent {session : Session} (h : s.Moves label t out)
    (hsession : s.sessions i = some session) (hsilent : session.watcher.Silent) (signal : Signal) :
    .signal (.watcher i) signal ∉ out := by
  intro hmem
  cases hcall : s.call label with
  | none => exact (h.uncalled hcall).2 _ _ hmem
  | some made =>
    obtain ⟨cause, call⟩ := made
    rw [(h.called hcall).2] at hmem
    obtain ⟨_, _, hevent⟩ := List.mem_map.mp hmem
    obtain ⟨rfl, rfl⟩ := Event.signal.inj hevent
    obtain ⟨session', report, hsession', hpoint⟩ := Plugin.call_watcher hcall
    obtain rfl : session = session' := Option.some.inj (hsession.symm.trans hsession')
    exact hsilent.no_report hpoint

private theorem Plugin.Moves.stopReturned {timely : Bool} (h : s.Moves label t out) (hs : s.Wf)
    (hmem : .stopReturned i timely ∈ out) :
    ∃ session, s.sessions i = some session ∧
      (timely = true → session.watcher.point.over = true) := by
  cases h with
  | stopEnded _ hsession hended =>
    obtain ⟨rfl, rfl⟩ : i = _ ∧ timely = true := by simpa using hmem
    exact ⟨_, hsession, fun _ => by simp [hended, Point.over]⟩
  | awaitStop _ hsession hanswered =>
    obtain ⟨rfl, rfl⟩ : i = _ ∧ timely = true := by simpa using hmem
    exact ⟨_, hsession, fun _ => (hs.sound _ _ hsession).answered hanswered⟩
  | @limit h old goal htask =>
    obtain ⟨rfl, rfl⟩ : i = old ∧ timely = false := by simpa using hmem
    obtain ⟨_, session, hsession⟩ := hs.taken h i (by simp [htask])
    exact ⟨session, hsession, by simp⟩
  | leave | settle | enterStarting | spawnFailed | ip4Started | reset | report =>
    obtain ⟨_, _, hevent⟩ := List.mem_map.mp hmem
    cases hevent
  | _ => simp at hmem

end Steps

/-- What a history says of the sessions whose `stop()` has returned. -/
structure Stops (history : List Event) (s : Plugin) : Prop where
  wf : s.Wf
  returned : ∀ i timely, .stopReturned i timely ∈ history → ∃ session, s.sessions i = some session
  ended : ∀ i session, .stopReturned i true ∈ history → s.sessions i = some session →
    session.watcher.point.over = true

theorem plugin_stops {allowed : List Event → Plugin → Label → Prop} {pppdPlugin ifname : String}
    {history : List Event} {s : Plugin}
    (run : Run Plugin.step allowed (.start pppdPlugin ifname) history s) : Stops history s := by
  refine run.invariant Stops ⟨Plugin.start_wf pppdPlugin ifname, by simp, by simp⟩ ?_
  intro history s label t out hs _ hstep
  have hmoves := Plugin.step_moves hstep
  refine ⟨hmoves.wf hs.wf, ?_, ?_⟩
  · intro i timely hmem
    obtain ⟨session, hsession⟩ : ∃ session, s.sessions i = some session := by
      rcases List.mem_append.mp hmem with hmem | hmem
      · exact hs.returned i timely hmem
      · obtain ⟨session, hsession, _⟩ := hmoves.stopReturned hs.wf hmem
        exact ⟨session, hsession⟩
    obtain ⟨after, hafter, _⟩ := hmoves.session hs.wf hsession
    exact ⟨after, hafter⟩
  · intro i after hmem hafter
    obtain ⟨session, hsession, hover⟩ : ∃ session, s.sessions i = some session ∧
        session.watcher.point.over = true := by
      rcases List.mem_append.mp hmem with hmem | hmem
      · obtain ⟨session, hsession⟩ := hs.returned i true hmem
        exact ⟨session, hsession, hs.ended i session hmem hsession⟩
      · obtain ⟨session, hsession, hover⟩ := hmoves.stopReturned hs.wf hmem
        exact ⟨session, hsession, hover rfl⟩
    obtain ⟨after', hafter', _, hnext⟩ := hmoves.session hs.wf hsession
    obtain rfl : after' = after := Option.some.inj (hafter'.symm.trans hafter)
    exact hnext.over hover

/-- A replaced session is silent in every run, interleaved or not, in which no watcher whose
`stop()` ran into its limit can still report when a `Connect` takes the state machine to
`Starting`. -/
theorem old_silent {pppdPlugin ifname : String} {history : List Event} {s : Plugin}
    (run : Run Plugin.step rearmsSilent (.start pppdPlugin ifname) history s) :
    OldSilent history := by
  intro before after h i timely hsplit hstopped signal hmem
  have hafter := run.after Stops
    (fun past e => e = .signal (.connect h) (.stateChanged .starting) ∧
      .stopReturned i timely ∈ past)
    (fun e => ∀ signal, e ≠ .signal (.watcher i) signal)
    (fun s => ∃ session, s.sessions i = some session ∧ session.watcher.Silent)
    plugin_stops ?_ ?_ hsplit ⟨rfl, hstopped⟩
  · exact hafter.2 _ hmem signal rfl
  · rintro past s label t pre e rest hs hallowed hstep ⟨rfl, hreturned⟩
    have hmoves := Plugin.step_moves hstep
    obtain ⟨rfl, rfl, hcall, hlegal⟩ := hmoves.announces (by decide)
    rw [List.append_nil] at hreturned
    obtain ⟨session, hsession⟩ := hs.returned i timely hreturned
    have hsilent : session.watcher.Silent := by
      cases timely with
      | true => exact Or.inl (hs.ended i session hreturned hsession)
      | false =>
        obtain ⟨k, launch, rfl, htask, hcause⟩ := Plugin.call_starting hcall
        obtain rfl := Cause.connect.inj hcause
        exact hallowed h rfl launch htask hlegal i hreturned session hsession
    obtain ⟨after, hafter, _, hnext⟩ := hmoves.session hs.wf hsession
    exact ⟨⟨after, hafter, hnext.silent hsilent⟩, nofun⟩
  · rintro past s label t out hs _ hstep ⟨session, hsession, hsilent⟩
    have hmoves := Plugin.step_moves hstep
    obtain ⟨after, hafter, _, hnext⟩ := hmoves.session hs.wf hsession
    refine ⟨⟨after, hafter, hnext.silent hsilent⟩, ?_⟩
    rintro e he signal rfl
    exact hmoves.silent hsession hsilent signal he

theorem old_silent_reconnect :
    ∃ history s, Run Plugin.step rearmsSilent (.start "plugin.so" "ppp0") history s ∧
      OldSilent history ∧ .stopReturned 0 true ∈ history ∧ s.inner.state = .starting := by
  obtain ⟨history, s, hexec, hreturned, hstarting⟩ : ∃ history s,
      exec Plugin.step (fun history _ _ => timelySoFar history) [] (.start "plugin.so" "ppp0")
        (connectLabels 0 (samlConnection "vpn.example") ++ disconnectLabels 1 0 ++
          connectLabels 2 (samlConnection "vpn.example")) = some (history, s) ∧
      .stopReturned 0 true ∈ history ∧ s.inner.state = .starting :=
    ⟨_, _, rfl, by decide, rfl⟩
  have run : Run Plugin.step rearmsSilent (.start "plugin.so" "ppp0") history s := by
    refine exec_run (fun history s label hok => ?_) .refl hexec
    rintro h - launch - - i hmem
    exact absurd hmem (timelySoFar_spec hok i)
  exact ⟨history, s, run, old_silent run, hreturned, hstarting⟩

/-- The first session's gateway presents a new certificate, and the dialog is waited for beyond
the limit of `stop()`; it is closed when the second session is starting. -/
def dialogOutlivesStop : List Label :=
  connectLabels 0 (samlConnection "vpn.example") ++
    [.watch 0 (.line "gateway certificate not trusted"),
      .watch 0 (.line
        "digest 0123456789abcdef0123456789abcdef0123456789abcdef0123456789abcdef"),
      .watch 0 .pollStop, .watch 0 (.exits false), .watch 0 .pollChild, .watch 0 (.drain second),
      .watch 0 (.judge .starting),
      .disconnect 1, .task 1, .task 1, .task 1, .limit 1, .task 1, .task 1] ++
    connectLabels 2 (samlConnection "vpn.example") ++ [.watch 0 .prompt, .watch 0 .report]

theorem dialogOutlivesStop_not_silent :
    ∃ history s, Run Plugin.step serial (.start "plugin.so" "ppp0") history s ∧
      ¬ OldSilent history := by
  obtain ⟨history, s, hexec, hhistory⟩ : ∃ history s,
      exec Plugin.step (serialBelow 3) [] (.start "plugin.so" "ppp0") dialogOutlivesStop =
        some (history, s) ∧
      history = [.signal (.connect 0) (.stateChanged .starting),
        .signal (.disconnect 1) (.stateChanged .stopping), .stopReturned 0 false,
        .signal (.disconnect 1) (.stateChanged .stopped)] ++
        .signal (.connect 2) (.stateChanged .starting) ::
        [.signal (.watcher 0) (.failure .connectFailed),
          .signal (.watcher 0) (.stateChanged .stopped)] := ⟨_, _, rfl, rfl⟩
  have run := serialBelow_run 3 anyLabel (exec_run (fun _ _ _ hok => ⟨hok, trivial⟩) .refl hexec)
  refine ⟨history, s, run.mono (fun _ _ _ => And.left), fun hsilent => ?_⟩
  exact hsilent _ _ 2 0 false hhistory (by decide) (.failure .connectFailed) (by decide)

end CrosswireNm.Service
