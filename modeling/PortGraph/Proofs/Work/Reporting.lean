import PortGraph.Proofs.Work.Chronicle

/-!
# Work that only reports

Work that has one thing after the other to tell and does nothing else, except that it lets others go
first after each. What it tells and what it ends with are the same whatever it sees, wherever it
begins, and whoever goes first when it lets them.

## Main definitions

* `Work.reporting`: the work with given things to tell
* `Work.IsSteady`: what is told and what the work ends with are the same however it is run

## Main results

* `Work.isSteady_reporting`: work that only reports is steady
-/

namespace PortGraph

variable {σ ε α β : Type}

namespace Work

/-- The work that tells one thing after the other, lets others go first after each, and ends with
`a`. -/
def reporting (a : α) : List ε → Work σ ε α
  | [] => .done a
  | e :: rest => .tell e (.yield (reporting a rest))

theorem reporting_bind (a : α) (news : List ε) (f : α → β) :
    ((reporting a news : Work σ ε α).bind fun a => .done (f a)) = reporting (f a) news := by
  induction news with
  | nil => rfl
  | cons e rest ih => rw [reporting, reporting, bind, bind, ih]

/-- What has been told when everything has been, and what has come of it. -/
theorem told_reporting {a b : α} {news told : List ε}
    (h : (reporting a news : Work σ ε α).Tells told (.done b)) : told = news ∧ b = a := by
  induction news generalizing told with
  | nil =>
    cases h
    exact ⟨rfl, rfl⟩
  | cons e rest ih =>
    cases h with
    | tell h =>
      cases h with
      | yield h => exact (ih h).imp_left (congrArg (e :: ·))

theorem exists_run_reporting (a : α) (news : List ε) (world : World σ ε) :
    ∃ after, (reporting a news).run world = .ok (after, a) ∧ after.news = world.news ++ news := by
  induction news generalizing world with
  | nil => exact ⟨world, rfl, (List.append_nil _).symm⟩
  | cons e rest ih =>
    obtain ⟨after, hrun, hnews⟩ := ih (world.tell e).turn
    have hturn : (world.tell e).turn.news = world.news ++ [e] := World.news_tell world e
    refine ⟨after, hrun, ?_⟩
    rw [hnews, hturn, List.append_assoc, List.singleton_append]

/-- However the work is run, by itself or among others and whoever goes first, it tells just `news`
and ends with `a`. -/
structure IsSteady (w : Work σ ε α) (news : List ε) (a : α) : Prop where
  alone : ∀ world, ∃ after, w.run world = .ok (after, a) ∧ after.news = world.news ++ news
  among : ∀ (world after : World σ ε) (limit : Nat) (works : List (Work σ ε α))
    (policy : Pool.Policy) (results : List (Nat × α)) (j : Nat), 1 ≤ limit → works[j]? = some w →
    (Pool.start world limit works).run policy = .ok (after, results) →
    ∃ told, after.news = world.news ++ told.map (·.2) ∧ Pool.Account limit works results told ∧
      Pool.newsOf j told = news ∧ results[j]?.map (·.2) = some a

/-- **Work that only reports is steady.** -/
theorem isSteady_reporting (a : α) (news : List ε) :
    (reporting a news : Work σ ε α).IsSteady news a where
  alone := exists_run_reporting a news
  among := by
    intro world after limit works policy results j hlimit hw hrun
    obtain ⟨told, hnews, haccount⟩ := Pool.exists_account (fun _ => hlimit) hrun
    obtain ⟨hj, -⟩ := List.getElem?_eq_some_iff.mp hw
    have hr : results[j]? = some (results.get ⟨j, haccount.length ▸ hj⟩) :=
      List.getElem?_eq_getElem _
    obtain ⟨htold, hresult⟩ := told_reporting (haccount.tells j _ _ hw hr)
    exact ⟨told, hnews, haccount, htold, by rw [hr, Option.map_some, hresult]⟩

end Work

end PortGraph
