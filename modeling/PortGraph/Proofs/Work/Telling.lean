import PortGraph.Proofs.Work.Ensures
import PortGraph.Work.Pool

/-!
# What work tells

What a piece of work tells on its way, whatever it sees. Driving it tells some of that, and leaves
the rest to be told. Of work that has come to its end, what it has told can be read off its parts.

## Main definitions

* `World.news`: what has been told so far
* `Work.Tells`: what may be told until something is left of the work
* `Work.IsPrompt`: the work does not stop before it has ended

## Main results

* `Work.exists_tells_drive`: what is told while work is driven
* `Work.Tells.cases_bind`, `Work.Tells.exists_of_mapNews`, `Work.Tells.exists_of_within`: what
  composed work has told
* `Work.Ensures.and_of_tells`: what holds of all ends is ensured
-/

namespace PortGraph

variable {σ τ ε δ α β : Type}

namespace World

/-- What has been told so far, without the times. -/
def news (w : World σ ε) : List ε := w.log.toList.map (·.2)

@[simp]
theorem news_tell (w : World σ ε) (e : ε) : (w.tell e).news = w.news ++ [e] := by
  simp [news, tell]

@[simp]
theorem news_pass (w : World σ ε) (wait : Wait) : (w.pass wait).news = w.news := by
  rw [pass]
  split <;> rfl

theorem news_skip {w after : World σ ε} {waits : List Wait} (h : w.skip waits = some after) :
    after.news = w.news := by
  simp only [skip] at h
  split at h
  · split at h
    · cases h
      rfl
    · obtain ⟨_, -, rfl⟩ := Option.map_eq_some_iff.mp h
      rfl
  · obtain ⟨_, -, rfl⟩ := Option.map_eq_some_iff.mp h
    rfl

end World

namespace Work

/-- The work may tell `told`, in this order, until `rest` is left of it. -/
inductive Tells : Work σ ε α → List ε → Work σ ε α → Prop
  | stay (w : Work σ ε α) : Tells w [] w
  | observe {next m told rest} (h : Tells (next m) told rest) : Tells (.observe next) told rest
  | tell {news next told rest} (h : Tells next told rest) :
    Tells (.tell news next) (news :: told) rest
  | cancel {next told rest} (h : Tells next told rest) : Tells (.cancel next) told rest
  | consult {change next s told rest} (h : Tells (next s) told rest) :
    Tells (.consult change next) told rest
  | await {w next m told rest} (h : Tells (next m) told rest) : Tells (.await w next) told rest
  | yield {next told rest} (h : Tells next told rest) : Tells (.yield next) told rest

/-- What is told first and what is told then. -/
theorem Tells.trans {u v w : Work σ ε α} {l m : List ε} (h : u.Tells l v) (h' : v.Tells m w) :
    u.Tells (l ++ m) w := by
  induction h with
  | stay => exact h'
  | observe _ ih => exact .observe (ih h')
  | tell _ ih => exact .tell (ih h')
  | cancel _ ih => exact .cancel (ih h')
  | consult _ ih => exact .consult (ih h')
  | await _ ih => exact .await (ih h')
  | yield _ ih => exact .yield (ih h')

/-- Work that has ended has nothing to tell. -/
theorem Tells.eq_of_done {a b : α} {told : List ε}
    (h : (Work.done a : Work σ ε α).Tells told (.done b)) : a = b := by
  cases h
  rfl

/-- **Driving work tells some of what it may tell**, and leaves the rest. -/
theorem exists_tells_drive (w : Work σ ε α) (world : World σ ε) :
    ∃ told, w.Tells told (w.drive world).2 ∧ (w.drive world).1.news = world.news ++ told := by
  induction w generalizing world with
  | done a => exact ⟨[], .stay _, (List.append_nil _).symm⟩
  | fault cause => exact ⟨[], .stay _, (List.append_nil _).symm⟩
  | observe next ih =>
    obtain ⟨told, h, hnews⟩ := ih world.moment world
    exact ⟨told, .observe h, hnews⟩
  | tell news next ih =>
    obtain ⟨told, h, hnews⟩ := ih (world.tell news)
    refine ⟨news :: told, .tell h, ?_⟩
    rw [World.news_tell, List.append_assoc] at hnews
    exact hnews
  | cancel next ih =>
    obtain ⟨told, h, hnews⟩ := ih { world with cancelled := true }
    exact ⟨told, .cancel h, hnews⟩
  | consult change next ih =>
    obtain ⟨told, h, hnews⟩ := ih world.state { world with state := change world.state }
    exact ⟨told, .consult h, hnews⟩
  | await w next ih =>
    rw [drive]
    split
    · obtain ⟨told, h, hnews⟩ := ih world.moment (world.pass w)
      rw [World.news_pass] at hnews
      exact ⟨told, .await h, hnews⟩
    · exact ⟨[], .stay _, (List.append_nil _).symm⟩
  | yield next ih => exact ⟨[], .stay _, (List.append_nil _).symm⟩

/-! ### Composition -/

/-- What composed work may tell: its first part to its end, and then the rest. -/
theorem Tells.bind {w : Work σ ε α} {f : α → Work σ ε β} {l m : List ε} {a : α} {v : Work σ ε β}
    (h : w.Tells l (.done a)) (hf : (f a).Tells m v) : (w.bind f).Tells (l ++ m) v := by
  generalize hend : Work.done a = r at h
  induction h with
  | stay =>
    subst hend
    exact hf
  | observe _ ih => exact .observe (ih hend)
  | tell _ ih => exact .tell (ih hend)
  | cancel _ ih => exact .cancel (ih hend)
  | consult _ ih => exact .consult (ih hend)
  | await _ ih => exact .await (ih hend)
  | yield _ ih => exact .yield (ih hend)

/-- What work that tells its news in other words may tell. -/
theorem Tells.mapNews {w v : Work σ ε α} {l : List ε} (f : ε → δ) (h : w.Tells l v) :
    (w.mapNews f).Tells (l.map f) (v.mapNews f) := by
  induction h with
  | stay => exact .stay _
  | observe _ ih => exact .observe ih
  | tell _ ih => exact .tell ih
  | cancel _ ih => exact .cancel ih
  | consult _ ih => exact .consult ih
  | await _ ih => exact .await ih
  | yield _ ih => exact .yield ih

/-- **What composed work has told**: its first part has not come to its end and is where the work
is, or it has, and the rest has told what there was to tell then. -/
theorem Tells.cases_bind {w : Work σ ε α} {f : α → Work σ ε β} {told : List ε} {v : Work σ ε β}
    (h : (w.bind f).Tells told v) :
    (∃ r, (∀ a, r ≠ .done a) ∧ w.Tells told r ∧ v = r.bind f) ∨
      ∃ a l m, told = l ++ m ∧ w.Tells l (.done a) ∧ (f a).Tells m v := by
  induction w generalizing told with
  | done a => exact .inr ⟨a, [], told, rfl, .stay _, h⟩
  | fault cause =>
    cases h
    exact .inl ⟨.fault cause, fun _ => nofun, .stay _, rfl⟩
  | observe next ih =>
    cases h with
    | stay => exact .inl ⟨.observe next, fun _ => nofun, .stay _, rfl⟩
    | observe h =>
      obtain ⟨r, hr, hw, hv⟩ | ⟨a, l, m, hlm, hw, hf⟩ := ih _ h
      · exact .inl ⟨r, hr, .observe hw, hv⟩
      · exact .inr ⟨a, l, m, hlm, .observe hw, hf⟩
  | tell news next ih =>
    cases h with
    | stay => exact .inl ⟨.tell news next, fun _ => nofun, .stay _, rfl⟩
    | tell h =>
      obtain ⟨r, hr, hw, hv⟩ | ⟨a, l, m, rfl, hw, hf⟩ := ih h
      · exact .inl ⟨r, hr, .tell hw, hv⟩
      · exact .inr ⟨a, news :: l, m, rfl, .tell hw, hf⟩
  | cancel next ih =>
    cases h with
    | stay => exact .inl ⟨.cancel next, fun _ => nofun, .stay _, rfl⟩
    | cancel h =>
      obtain ⟨r, hr, hw, hv⟩ | ⟨a, l, m, hlm, hw, hf⟩ := ih h
      · exact .inl ⟨r, hr, .cancel hw, hv⟩
      · exact .inr ⟨a, l, m, hlm, .cancel hw, hf⟩
  | consult change next ih =>
    cases h with
    | stay => exact .inl ⟨.consult change next, fun _ => nofun, .stay _, rfl⟩
    | consult h =>
      obtain ⟨r, hr, hw, hv⟩ | ⟨a, l, m, hlm, hw, hf⟩ := ih _ h
      · exact .inl ⟨r, hr, .consult hw, hv⟩
      · exact .inr ⟨a, l, m, hlm, .consult hw, hf⟩
  | await w next ih =>
    cases h with
    | stay => exact .inl ⟨.await w next, fun _ => nofun, .stay _, rfl⟩
    | await h =>
      obtain ⟨r, hr, hw, hv⟩ | ⟨a, l, m, hlm, hw, hf⟩ := ih _ h
      · exact .inl ⟨r, hr, .await hw, hv⟩
      · exact .inr ⟨a, l, m, hlm, .await hw, hf⟩
  | yield next ih =>
    cases h with
    | stay => exact .inl ⟨.yield next, fun _ => nofun, .stay _, rfl⟩
    | yield h =>
      obtain ⟨r, hr, hw, hv⟩ | ⟨a, l, m, hlm, hw, hf⟩ := ih h
      · exact .inl ⟨r, hr, .yield hw, hv⟩
      · exact .inr ⟨a, l, m, hlm, .yield hw, hf⟩

/-- What work and its continuation have told when they have ended. -/
theorem Tells.of_bind {w : Work σ ε α} {f : α → Work σ ε β} {told : List ε} {b : β}
    (h : (w.bind f).Tells told (.done b)) :
    ∃ a l m, told = l ++ m ∧ w.Tells l (.done a) ∧ (f a).Tells m (.done b) := by
  refine h.cases_bind.resolve_left ?_
  rintro ⟨r, hr, -, hb⟩
  cases r with
  | done a => exact hr a rfl
  | _ => cases hb

/-- **What work that tells its news in other words has told.** -/
theorem Tells.exists_of_mapNews {w : Work σ ε α} {f : ε → δ} {told : List δ} {v : Work σ δ α}
    (h : (w.mapNews f).Tells told v) :
    ∃ l r, told = l.map f ∧ v = r.mapNews f ∧ w.Tells l r := by
  induction w generalizing told with
  | done b =>
    cases h
    exact ⟨[], _, rfl, rfl, .stay _⟩
  | fault cause =>
    cases h
    exact ⟨[], _, rfl, rfl, .stay _⟩
  | observe next ih =>
    cases h with
    | stay => exact ⟨[], _, rfl, rfl, .stay _⟩
    | observe h =>
      obtain ⟨l, r, hl, hv, hw⟩ := ih _ h
      exact ⟨l, r, hl, hv, .observe hw⟩
  | tell news next ih =>
    cases h with
    | stay => exact ⟨[], _, rfl, rfl, .stay _⟩
    | tell h =>
      obtain ⟨l, r, rfl, hv, hw⟩ := ih h
      exact ⟨news :: l, r, rfl, hv, .tell hw⟩
  | cancel next ih =>
    cases h with
    | stay => exact ⟨[], _, rfl, rfl, .stay _⟩
    | cancel h =>
      obtain ⟨l, r, hl, hv, hw⟩ := ih h
      exact ⟨l, r, hl, hv, .cancel hw⟩
  | consult change next ih =>
    cases h with
    | stay => exact ⟨[], _, rfl, rfl, .stay _⟩
    | consult h =>
      obtain ⟨l, r, hl, hv, hw⟩ := ih _ h
      exact ⟨l, r, hl, hv, .consult hw⟩
  | await w next ih =>
    cases h with
    | stay => exact ⟨[], _, rfl, rfl, .stay _⟩
    | await h =>
      obtain ⟨l, r, hl, hv, hw⟩ := ih _ h
      exact ⟨l, r, hl, hv, .await hw⟩
  | yield next ih =>
    cases h with
    | stay => exact ⟨[], _, rfl, rfl, .stay _⟩
    | yield h =>
      obtain ⟨l, r, hl, hv, hw⟩ := ih h
      exact ⟨l, r, hl, hv, .yield hw⟩

/-- What it has told when it has ended. -/
theorem Tells.of_mapNews {w : Work σ ε α} {f : ε → δ} {told : List δ} {a : α}
    (h : (w.mapNews f).Tells told (.done a)) : ∃ l, told = l.map f ∧ w.Tells l (.done a) := by
  obtain ⟨l, r, hl, hr, hw⟩ := h.exists_of_mapNews
  cases r <;> cases hr
  exact ⟨l, hl, hw⟩

/-- **Work on a part of a larger state tells nothing else.** -/
theorem Tells.exists_of_within {w : Work σ ε α} {get : τ → σ} {set : σ → τ → τ} {told : List ε}
    {v : Work τ ε α} (h : (w.within get set).Tells told v) :
    ∃ r, v = r.within get set ∧ w.Tells told r := by
  induction w generalizing told with
  | done b =>
    cases h
    exact ⟨_, rfl, .stay _⟩
  | fault cause =>
    cases h
    exact ⟨_, rfl, .stay _⟩
  | observe next ih =>
    cases h with
    | stay => exact ⟨_, rfl, .stay _⟩
    | observe h => exact (ih _ h).imp fun _ hr => hr.imp_right .observe
  | tell news next ih =>
    cases h with
    | stay => exact ⟨_, rfl, .stay _⟩
    | tell h => exact (ih h).imp fun _ hr => hr.imp_right .tell
  | cancel next ih =>
    cases h with
    | stay => exact ⟨_, rfl, .stay _⟩
    | cancel h => exact (ih h).imp fun _ hr => hr.imp_right .cancel
  | consult change next ih =>
    cases h with
    | stay => exact ⟨_, rfl, .stay _⟩
    | consult h => exact (ih _ h).imp fun _ hr => hr.imp_right .consult
  | await w next ih =>
    cases h with
    | stay => exact ⟨_, rfl, .stay _⟩
    | await h => exact (ih _ h).imp fun _ hr => hr.imp_right .await
  | yield next ih =>
    cases h with
    | stay => exact ⟨_, rfl, .stay _⟩
    | yield h => exact (ih h).imp fun _ hr => hr.imp_right .yield

theorem Tells.of_within {w : Work σ ε α} {get : τ → σ} {set : σ → τ → τ} {told : List ε} {a : α}
    (h : (w.within get set).Tells told (.done a)) : w.Tells told (.done a) := by
  obtain ⟨r, hr, hw⟩ := h.exists_of_within
  cases r <;> cases hr
  exact hw

/-! ### What is ensured, and what is told -/

/-- What holds of all ends of some work is ensured besides. -/
theorem Ensures.and_of_tells {ι : Type} {T : Terms ι σ} {i : ι} {P : Nat → σ → α → Prop}
    {R : α → Prop} {t : Nat} {s : σ} {w : Work σ ε α} (h : w.Ensures T i P t s)
    (hR : ∀ told a, w.Tells told (.done a) → R a) :
    w.Ensures T i (fun t s a => P t s a ∧ R a) t s := by
  induction w generalizing t s with
  | done a => exact ⟨h, hR [] a (.stay _)⟩
  | fault => trivial
  | observe next ih => exact fun m hm hc => ih m (h m hm hc) fun _ a ha => hR _ a (.observe ha)
  | tell news next ih => exact ih h fun _ a ha => hR _ a (.tell ha)
  | cancel next ih => exact ⟨h.1, ih h.2 fun _ a ha => hR _ a (.cancel ha)⟩
  | consult change next ih =>
    intro s' hI hrely
    obtain ⟨hI', hothers, hnext⟩ := h s' hI hrely
    exact ⟨hI', hothers, ih s' hnext fun _ a ha => hR _ a (.consult ha)⟩
  | await w next ih =>
    exact fun m ht ho hd hc => ih m (h m ht ho hd hc) fun _ a ha => hR _ a (.await ha)
  | yield next ih => exact ih h fun _ a ha => hR _ a (.yield ha)

/-! ### Where work stops -/

/-- Composed work stops where its first part does, unless that has come to its end. -/
theorem IsStopped.of_bind {r : Work σ ε α} {f : α → Work σ ε β} (h : (r.bind f).IsStopped)
    (hr : ∀ a, r ≠ .done a) : r.IsStopped := by
  cases r with
  | done a => exact absurd rfl (hr a)
  | await | yield => trivial
  | _ => exact h.elim

/-- The work does not stop before it has ended. -/
def IsPrompt : Work σ ε α → Prop
  | .done _ => True
  | .fault _ => True
  | .observe next => ∀ m, (next m).IsPrompt
  | .tell _ next => next.IsPrompt
  | .cancel next => next.IsPrompt
  | .consult _ next => ∀ s, (next s).IsPrompt
  | .await .. => False
  | .yield _ => False

theorem IsPrompt.bind {w : Work σ ε α} {f : α → Work σ ε β} (h : w.IsPrompt)
    (hf : ∀ a, (f a).IsPrompt) : (w.bind f).IsPrompt := by
  induction w with
  | done a => exact hf a
  | fault => trivial
  | observe next ih => exact fun m => ih m (h m)
  | tell news next ih => exact ih h
  | cancel next ih => exact ih h
  | consult change next ih => exact fun s => ih s (h s)
  | await => exact h.elim
  | yield => exact h.elim

theorem IsPrompt.exists_eq_done {w v : Work σ ε α} (h : w.IsPrompt) {told : List ε}
    (htells : w.Tells told v) (hstop : v.IsStopped) : ∃ a, v = .done a := by
  induction htells with
  | stay v =>
    cases v with
    | done a => exact ⟨a, rfl⟩
    | await | yield => exact h.elim
    | _ => exact hstop.elim
  | observe _ ih => exact ih (h _) hstop
  | tell _ ih => exact ih h hstop
  | cancel _ ih => exact ih h hstop
  | consult _ ih => exact ih (h _) hstop
  | await => exact h.elim
  | yield => exact h.elim

/-- Telling several things does not stop on the way. -/
theorem told_sayAll {news told : List ε} {v : Work σ ε Unit} (h : (sayAll news).Tells told v)
    (hstop : v.IsStopped) : told = news ∧ v = .done () := by
  induction news generalizing told with
  | nil =>
    cases h
    exact ⟨rfl, rfl⟩
  | cons e rest ih =>
    cases h with
    | stay => exact hstop.elim
    | tell h => exact (ih h).imp_left (congrArg (e :: ·))

end Work

end PortGraph
