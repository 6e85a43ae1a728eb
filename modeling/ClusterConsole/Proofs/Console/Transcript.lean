import ClusterConsole.Console.Command

/-!
# Transcripts

The transcript of a task that is followed by another is the one transcript after the other, unless
the first ends with a complaint. A server that keeps to a script gives its replies in their order,
whatever it is asked.
-/

namespace ClusterConsole.Console

open Backend (Reply)
open Http (Request)

variable {σ α β : Type}

def Transcript.after (t : Transcript σ α) (asked : List Request) (printed : List String) :
    Transcript σ α :=
  { t with asked := asked ++ t.asked, printed := printed ++ t.printed }

/-- The transcript of one task and then of the next, which goes on with the server. -/
def Transcript.andThen (t : Transcript σ α) (next : α → σ → Transcript σ β) : Transcript σ β :=
  match t.result with
  | .ok a => (next a t.server).after t.asked t.printed
  | .error c => ⟨.error c, t.server, t.asked, t.printed⟩

theorem Transcript.andThen_of_ok {t : Transcript σ α} {a : α} (h : t.result = .ok a)
    (next : α → σ → Transcript σ β) :
    t.andThen next = (next a t.server).after t.asked t.printed := by
  rw [andThen, h]

namespace Task

variable (send : σ → Request → Reply × σ)

theorem run_bind (t : Task α) (f : α → Task β) (server : σ) :
    (t >>= f).run send server = (t.run send server).andThen fun a s => (f a).run send s := by
  induction t generalizing server with
  | done a => rfl
  | fail c => rfl
  | ask r next ih =>
    have hrest := ih (send server r).1 (send server r).2
    change { ((next (send server r).1) >>= f).run send (send server r).2 with
      asked := r :: (((next (send server r).1) >>= f).run send (send server r).2).asked } = _
    rw [hrest]
    simp only [run, Transcript.andThen]
    split <;> rfl
  | print text next ih =>
    change { (next >>= f).run send server with
      printed := text :: ((next >>= f).run send server).printed } = _
    rw [ih]
    simp only [run, Transcript.andThen]
    split <;> rfl

end Task

def scripted (replies : Nat → Reply) (k : Nat) (_ : Request) : Reply × Nat := (replies k, k + 1)

end ClusterConsole.Console
