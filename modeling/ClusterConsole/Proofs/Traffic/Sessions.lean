import ClusterConsole.Objects.Session
import ClusterConsole.Proofs.Traffic.Coherence

/-!
# Sessions are traffic

Names and the clock only choose which events of traffic happen. So what holds after any events of
traffic holds in every session.
-/

namespace ClusterConsole.Session

variable {s s' : Session}

def Follows (s s' : Session) : Prop :=
  s'.config = s.config ∧ ∃ events, s'.traffic = Traffic.run s.config s.traffic events

theorem Follows.refl (s : Session) : Follows s s := ⟨rfl, [], rfl⟩

theorem Follows.trans {s'' : Session} (h : Follows s s') (h' : Follows s' s'') :
    Follows s s'' := by
  obtain ⟨hconfig, events, htraffic⟩ := h
  obtain ⟨hconfig', events', htraffic'⟩ := h'
  refine ⟨hconfig'.trans hconfig, events ++ events', ?_⟩
  rw [Traffic.run_append, ← htraffic, ← hconfig, htraffic']

theorem follows_act (s : Session) (x : Traffic.Event) : Follows s (s.act x) := ⟨rfl, [x], rfl⟩

theorem follows_land (o : Outcome) (l : Label) (reply : Backend.Reply) :
    Follows o.session (land o l reply).session := follows_act _ _

theorem follows_lands (reply : Backend.Reply) (ls : List Label) (o : Outcome) :
    Follows o.session (ls.foldl (fun o l => land o l reply) o).session := by
  induction ls generalizing o with
  | nil => exact .refl _
  | cons l ls ih => exact (follows_land o l reply).trans (ih (land o l reply))

theorem follows_issue (s : Session) (name : String) : Follows s (s.issue name).session := by
  unfold issue
  split
  · exact .refl s
  · exact follows_act s .issue

theorem follows_step (s : Session) (x : Event) : Follows s (s.step x).session := by
  cases x with
  | select target => exact follows_act s _
  | filter f => exact follows_act s _
  | restart => exact follows_act s _
  | issue name => exact follows_issue s name
  | answer name answer =>
    rw [step]
    split
    · next l labels _ => exact follows_land (quiet { s with labels }) l _
    · exact .refl s
  | advance ms => exact follows_lands _ _ (quiet { s with clock := _, labels := _ })
  | displayPage n => exact follows_act s _
  | displayPageSize n => exact follows_act s _

theorem follows_run (s : Session) (events : List Event) : Follows s (s.run events).session := by
  have hfold : ∀ (events : List Event) (o : Outcome), Follows o.session
      (events.foldl (fun o ev =>
        let next := o.session.step ev
        ⟨next.session, o.finished ++ next.finished, o.requests ++ next.requests⟩) o).session := by
    intro events
    induction events with
    | nil => intro o; exact .refl _
    | cons x xs ih =>
      intro o
      exact (follows_step o.session x).trans (ih ⟨(o.session.step x).session, _, _⟩)
  exact hfold events s.quiet

/-- Every session of a new engine is where some events of traffic lead. -/
theorem run_is_traffic (config : Engine.Config) (events : List Event) :
    ∃ moves, ((new config).run events).session.traffic = Traffic.after config moves :=
  (follows_run (new config) events).2

theorem run_coherent (config : Engine.Config) (events : List Event) :
    Traffic.Coherent config ((new config).run events).session.traffic := by
  obtain ⟨moves, hmoves⟩ := run_is_traffic config events
  rw [hmoves]
  exact Traffic.after_coherent config moves

end ClusterConsole.Session
