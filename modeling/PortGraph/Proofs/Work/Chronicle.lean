import PortGraph.Proofs.Work.Pool
import PortGraph.Proofs.Work.Telling
import Mathlib.Data.Set.Card

/-!
# What a pool tells

The news of a pool is that of its pieces, in some interleaving. Each item is written down with the
place of the piece that it is from. Read for one piece, it is what that piece tells by itself; and
at no time have more pieces than there is room for something to tell both before and after. If there
is room for one only, the pieces tell what they have to tell one after the other, in the order of
the pool.

Whoever has told something has entered, and whoever is still to tell something has not ended. So
the bound on who is under way is a bound on who has told something and will again.

## Main definitions

* `Pool.newsOf`: the news of one piece
* `Pool.Chronicle`: what has been told by a pool so far, and who is under way
* `Pool.Account`: what has been told by a pool that is done

## Main results

* `Pool.Chronicle.step`, `Pool.Chronicle.leads`: a step adds to the news what one piece tells
* `Pool.exists_account`: what a pool has told when it is done
-/

namespace PortGraph

variable {σ ε α : Type}

namespace Piece

/-- A piece that has ended cannot be driven any more. -/
theorem isOpen_eq_false_of_isClosed {s : Piece σ ε α} (h : s.isClosed = true) :
    s.isOpen = false := by
  obtain ⟨rest, stopped?⟩ := s
  cases stopped? with
  | none => cases h
  | some t => cases rest <;> first | rfl | cases h

/-- Resuming a piece tells nothing. -/
theorem tells_resume (s : Piece σ ε α) : s.rest.Tells [] s.resume := by
  obtain ⟨rest, stopped?⟩ := s
  cases stopped? with
  | none => exact .stay rest
  | some t =>
    cases rest with
    | yield next => exact .yield (.stay next)
    | _ => exact .stay _

end Piece

namespace Pool

/-- The news of piece `j`. -/
def newsOf (j : Nat) (told : List (Nat × ε)) : List ε := (told.filter (·.1 = j)).map (·.2)

theorem newsOf_append (j : Nat) (told more : List (Nat × ε)) :
    newsOf j (told ++ more) = newsOf j told ++ newsOf j more := by
  rw [newsOf, List.filter_append, List.map_append]
  rfl

theorem newsOf_map_self (j : Nat) (l : List ε) : newsOf j (l.map (j, ·)) = l := by
  simp [newsOf, List.filter_map, Function.comp_def]

theorem newsOf_map_of_ne {i j : Nat} (h : i ≠ j) (l : List ε) : newsOf j (l.map (i, ·)) = [] := by
  simp [newsOf, List.filter_map, Function.comp_def, h]

/-- Piece `j` has not ended. -/
def Opens (p : Pool σ ε α) (j : Nat) : Prop :=
  ∃ s : Piece σ ε α, p.pieces[j]? = some s ∧ s.isOpen = true

/-- What holds of the news that a pool of `works` has told since it began in `world`: at no time, be
it now or when the news was `before`, are more than `limit` pieces under way. -/
structure Chronicle (world : World σ ε) (limit : Nat) (works : List (Work σ ε α))
    (told : List (Nat × ε)) (p : Pool σ ε α) : Prop where
  news : p.world.news = world.news ++ told.map (·.2)
  length : p.pieces.length = works.length
  tells : ∀ (j : Nat) w s, works[j]? = some w → p.pieces[j]? = some s →
    w.Tells (newsOf j told) s.rest
  entered : ∀ x ∈ told, x.1 < p.entered
  underWay : {j | j < p.entered ∧ p.Opens j}.encard ≤ limit
  atAnyTime : ∀ before rest, told = before ++ rest →
    {j | j ∈ before.map (·.1) ∧ (j ∈ rest.map (·.1) ∨ p.Opens j)}.encard ≤ limit
  /-- If there is room for one piece, all but the last one that has entered have ended. -/
  inOrder : limit ≤ 1 →
    told.Pairwise (·.1 ≤ ·.1) ∧ ∀ j, j + 1 < p.entered → ¬ p.Opens j

variable {world : World σ ε} {limit : Nat} {works : List (Work σ ε α)} {told : List (Nat × ε)}
  {p q : Pool σ ε α}

/-! ### One drive -/

/-- What is told does not depend on who stands in the queue. -/
theorem Chronicle.of_eq (h : p.Chronicle world limit works told)
    (hnews : q.world.news = p.world.news) (hpieces : q.pieces = p.pieces)
    (hentered : q.entered = p.entered) : q.Chronicle world limit works told := by
  have hopens : q.Opens = p.Opens := by
    funext j
    rw [Opens, hpieces]
    rfl
  refine ⟨hnews.trans h.news, hpieces ▸ h.length, hpieces ▸ h.tells, hentered ▸ h.entered,
    ?_, ?_, ?_⟩
  · rw [hentered, hopens]
    exact h.underWay
  · rw [hopens]
    exact h.atAnyTime
  · rw [hentered, hopens]
    exact h.inOrder

/-- Settling a piece opens nobody, and closes the piece if it has ended. -/
theorem opens_of_settle {i j : Nat} {there : World σ ε} {rest : Work σ ε α} (hi : p.Opens i)
    (h : (p.settle i there rest).Opens j) :
    p.Opens j ∧ (j = i → Piece.isOpen ⟨rest, some p.drives⟩ = true) := by
  obtain ⟨s, hs, hopen⟩ := h
  rcases getElem?_settle hs with ⟨rfl, rfl⟩ | ⟨hne, hs⟩
  · exact ⟨hi, fun _ => hopen⟩
  · exact ⟨⟨s, hs, hopen⟩, fun he => absurd he hne⟩

theorem welcome_entered {n : Nat} (h : p.entered = n) :
    p.welcome.entered = n ∨ p.welcome.entered = n + 1 := by
  rw [welcome]
  split
  · exact .inr (congrArg (· + 1) h)
  · exact .inl h

/-- One more piece enters only if the piece that is settled has ended. -/
theorem settle_entered (i : Nat) (there : World σ ε) (rest : Work σ ε α) :
    (p.settle i there rest).entered = p.entered ∨
      (p.settle i there rest).entered = p.entered + 1 ∧
        Piece.isClosed ⟨rest, some p.drives⟩ = true := by
  have awaken_entered (b : Bool) (r : Pool σ ε α) (hr : r.entered = p.entered) :
      (if b then r.awaken else r).entered = p.entered := by
    split <;> exact hr
  simp only [settle]
  split
  · rename_i hclosed
    refine (welcome_entered (awaken_entered _ _ ?_)).imp_right (⟨·, hclosed⟩)
    rfl
  · exact .inl (awaken_entered _ _ rfl)

/-- A piece that has ended leaves its room to the next one. -/
theorem encard_underWay_settle {i : Nat} {there : World σ ε} {rest : Work σ ε α}
    (hlt : i < p.entered) (hi : p.Opens i) :
    {j | j < (p.settle i there rest).entered ∧ (p.settle i there rest).Opens j}.encard ≤
      {j | j < p.entered ∧ p.Opens j}.encard := by
  rcases settle_entered (p := p) i there rest with hentered | ⟨hentered, hclosed⟩
  · refine Set.encard_le_encard fun j ⟨hj, hopen⟩ => ⟨hentered ▸ hj, ?_⟩
    exact (opens_of_settle hi hopen).1
  · have hshut := Piece.isOpen_eq_false_of_isClosed hclosed
    calc {j | j < (p.settle i there rest).entered ∧ (p.settle i there rest).Opens j}.encard
        ≤ (insert p.entered ({j | j < p.entered ∧ p.Opens j} \ {i})).encard := by
          refine Set.encard_le_encard fun j ⟨hj, hopen⟩ => ?_
          obtain ⟨hold, hself⟩ := opens_of_settle hi hopen
          rw [hentered] at hj
          rcases Nat.lt_succ_iff_lt_or_eq.mp hj with hj | rfl
          · refine .inr ⟨⟨hj, hold⟩, fun he => ?_⟩
            exact Bool.false_ne_true (hshut.symm.trans (hself he))
          · exact .inl rfl
      _ ≤ ({j | j < p.entered ∧ p.Opens j} \ {i}).encard + 1 := Set.encard_insert_le _ _
      _ = {j | j < p.entered ∧ p.Opens j}.encard :=
          Set.encard_sdiff_singleton_add_one ⟨hlt, hi⟩

/-- **Who tells something is under way**: so there is room for all who have told something and will
again, after a drive of piece `i` that tells `news`. -/
theorem Chronicle.atAnyTime_settle (h : p.Chronicle world limit works told) {i : Nat}
    (hlt : i < p.entered) (hi : p.Opens i) {there : World σ ε} {rest : Work σ ε α}
    {news : List (Nat × ε)} (hnews : ∀ x ∈ news, x.1 = i) {before after : List (Nat × ε)}
    (htold : told ++ news = before ++ after) :
    {j | j ∈ before.map (·.1) ∧
      (j ∈ after.map (·.1) ∨ (p.settle i there rest).Opens j)}.encard ≤ limit := by
  have hopens {j : Nat} (hj : (p.settle i there rest).Opens j) : p.Opens j :=
    (opens_of_settle hi hj).1
  have hself {l : List (Nat × ε)} (hl : ∀ x ∈ l, x.1 = i) {j : Nat} (hj : j ∈ l.map (·.1)) :
      j = i := by
    obtain ⟨x, hx, rfl⟩ := List.mem_map.mp hj
    exact hl x hx
  rcases List.append_eq_append_iff.mp htold with ⟨more, rfl, rfl⟩ | ⟨more, rfl, rfl⟩
  · -- the cut is among what has been told just now: whoever is under way there is so before
    refine le_trans (Set.encard_le_encard ?_) h.underWay
    rintro j ⟨hj, hrest⟩
    rw [List.map_append, List.mem_append] at hj
    constructor
    · rcases hj with hj | hj
      · obtain ⟨x, hx, rfl⟩ := List.mem_map.mp hj
        exact h.entered x hx
      · rw [hself (fun x hx => hnews x (List.mem_append_left _ hx)) hj]
        exact hlt
    · rcases hrest with hrest | hrest
      · rw [hself (fun x hx => hnews x (List.mem_append_right _ hx)) hrest]
        exact hi
      · exact hopens hrest
  · -- the cut is among what had been told before
    refine le_trans (Set.encard_le_encard ?_) (h.atAnyTime before more rfl)
    rintro j ⟨hj, hrest⟩
    refine ⟨hj, ?_⟩
    rw [List.map_append, List.mem_append] at hrest
    rcases hrest with (hrest | hrest) | hrest
    · exact .inl hrest
    · rw [hself hnews hrest]
      exact .inr hi
    · exact .inr (hopens hrest)

/-- If there is room for one piece, the piece that is driven is the last one that has entered, and
stays so until it has ended. -/
theorem Chronicle.inOrder_settle (h : p.Chronicle world limit works told) {i : Nat}
    (hlt : i < p.entered) (hi : p.Opens i) {there : World σ ε} {rest : Work σ ε α}
    {news : List (Nat × ε)} (hnews : ∀ x ∈ news, x.1 = i) (hlimit : limit ≤ 1) :
    (told ++ news).Pairwise (·.1 ≤ ·.1) ∧
      ∀ j, j + 1 < (p.settle i there rest).entered → ¬ (p.settle i there rest).Opens j := by
  obtain ⟨hsorted, hended⟩ := h.inOrder hlimit
  have hlast : i + 1 = p.entered := by
    by_contra hne
    exact hended i (by omega) hi
  refine ⟨List.pairwise_append.mpr ⟨hsorted, ?_, ?_⟩, ?_⟩
  · exact List.pairwise_of_forall_mem_list fun x hx y hy => by rw [hnews x hx, hnews y hy]
  · intro x hx y hy
    have := h.entered x hx
    rw [hnews y hy]
    omega
  · intro j hj hopen
    obtain ⟨hold, hself⟩ := opens_of_settle hi hopen
    rcases settle_entered (p := p) i there rest with he | ⟨he, hclosed⟩
    · exact hended j (he ▸ hj) hold
    · by_cases hji : j = i
      · exact Bool.false_ne_true
          ((Piece.isOpen_eq_false_of_isClosed hclosed).symm.trans (hself hji))
      · exact hended j (by omega) hold

/-- **A piece that is driven adds to the news what it tells**, and everybody else is where they
were. -/
theorem Chronicle.settle (h : p.Chronicle world limit works told) {i : Nat} {s : Piece σ ε α}
    (hlt : i < p.entered) (hs : p.pieces[i]? = some s) (hopen : s.isOpen = true)
    {there : World σ ε} {rest : Work σ ε α} {l : List ε} (hl : s.resume.Tells l rest)
    (hnews : there.news = p.world.news ++ l) :
    (p.settle i there rest).Chronicle world limit works (told ++ l.map (i, ·)) := by
  have hi : p.Opens i := ⟨s, hs, hopen⟩
  have htags : ∀ x ∈ l.map (i, ·), x.1 = i := by
    intro x hx
    obtain ⟨e, -, rfl⟩ := List.mem_map.mp hx
    rfl
  have hentered : p.entered ≤ (p.settle i there rest).entered := by
    rcases settle_entered (p := p) i there rest with he | ⟨he, -⟩ <;> omega
  constructor
  case news =>
    rw [settle_world, hnews, h.news, List.map_append, List.map_map, List.append_assoc]
    simp [Function.comp_def]
  case length => rw [settle_pieces, List.length_set, h.length]
  case tells =>
    intro j w t hw ht
    rw [newsOf_append]
    rcases getElem?_settle ht with ⟨rfl, rfl⟩ | ⟨hne, ht⟩
    · rw [newsOf_map_self]
      exact (h.tells j w s hw hs).trans (s.tells_resume.trans hl)
    · rw [newsOf_map_of_ne (Ne.symm hne), List.append_nil]
      exact h.tells j w t hw ht
  case entered =>
    intro x hx
    rcases List.mem_append.mp hx with hx | hx
    · exact Nat.lt_of_lt_of_le (h.entered x hx) hentered
    · rw [htags x hx]
      exact Nat.lt_of_lt_of_le hlt hentered
  case underWay => exact (encard_underWay_settle hlt hi).trans h.underWay
  case atAnyTime => exact fun before after htold => h.atAnyTime_settle hlt hi htags htold
  case inOrder => exact h.inOrder_settle hlt hi htags

/-! ### The run -/

theorem nextTurn_entered (h : p.nextTurn = some q) : q.entered = p.entered := by
  simp only [nextTurn] at h
  split at h
  · obtain ⟨_, -, rfl⟩ := Option.map_eq_some_iff.mp h
    rfl
  · cases h
    rfl

theorem nextTurn_news (h : p.nextTurn = some q) : q.world.news = p.world.news := by
  simp only [nextTurn] at h
  split at h
  · obtain ⟨there, hskip, rfl⟩ := Option.map_eq_some_iff.mp h
    exact World.news_skip (w := p.world.turn) hskip
  · cases h
    rfl

theorem Chronicle.drive (h : p.Chronicle world limit works told) {i : Nat} (hi : i < p.entered)
    (hq : p.drive i = .ok q) : ∃ more, q.Chronicle world limit works (told ++ more) := by
  obtain ⟨s, hs, rfl | ⟨hopen, -, rfl⟩⟩ := drive_inv hq
  · refine ⟨[], ?_⟩
    rw [List.append_nil]
    exact h.of_eq rfl rfl rfl
  · obtain ⟨l, hl, hnews⟩ := Work.exists_tells_drive s.resume p.world
    have htaken : (p.taken i).Chronicle world limit works told := h.of_eq rfl rfl rfl
    exact ⟨_, htaken.settle hi hs hopen hl hnews⟩

/-- **A step adds to the news** what one piece tells. -/
theorem Chronicle.step (h : p.Chronicle world limit works told) (hp : p.IsSound) {policy : Policy}
    (hq : p.step policy = .ok q) : ∃ more, q.Chronicle world limit works (told ++ more) := by
  obtain ⟨r, i, rfl | hr, hi, hq⟩ := step_inv hq
  · exact h.drive (hp.listed i (List.mem_append_left _ hi)).1 hq
  · have hnext := h.of_eq (nextTurn_news hr) (nextTurn_pieces hr) (nextTurn_entered hr)
    exact hnext.drive ((hp.nextTurn hr).listed i (List.mem_append_left _ hi)).1 hq

theorem Chronicle.start (world : World σ ε) (limit : Nat) (works : List (Work σ ε α)) :
    (start world limit works).Chronicle world limit works [] := by
  have hentered : (Pool.start world limit works).entered ≤ limit := Nat.min_le_left _ _
  constructor
  case news => exact (List.append_nil _).symm
  case length => exact List.length_map ..
  case tells =>
    intro j w s hw hs
    obtain ⟨w', hw', rfl⟩ := Option.map_eq_some_iff.mp (List.getElem?_map ▸ hs)
    cases hw.symm.trans hw'
    exact .stay w
  case entered => exact fun x hx => absurd hx List.not_mem_nil
  case underWay =>
    calc {j | j < (Pool.start world limit works).entered ∧
            (Pool.start world limit works).Opens j}.encard
        ≤ ((Finset.range limit : Finset Nat) : Set Nat).encard := by
          refine Set.encard_le_encard fun j ⟨hj, _⟩ => ?_
          exact Finset.mem_coe.mpr (Finset.mem_range.mpr (Nat.lt_of_lt_of_le hj hentered))
      _ = limit := by rw [Set.encard_coe_eq_coe_finsetCard, Finset.card_range]
  case atAnyTime =>
    intro before rest htold
    obtain ⟨rfl, -⟩ := List.append_eq_nil_iff.mp htold.symm
    simp
  case inOrder =>
    intro hlimit
    refine ⟨.nil, fun j hj _ => ?_⟩
    omega

/-- What stands in the order of numbers is gathered by number. -/
theorem eq_flatMap_filter {β : Type} {l : List (Nat × β)} (h : l.Pairwise (·.1 ≤ ·.1)) {n : Nat}
    (hn : ∀ x ∈ l, x.1 < n) : l = (List.range n).flatMap fun j => l.filter (·.1 = j) := by
  induction n generalizing l with
  | zero =>
    have hnil : l = [] := List.eq_nil_iff_forall_not_mem.mpr fun x hx => Nat.not_lt_zero _ (hn x hx)
    rw [hnil]
    rfl
  | succ n ih =>
    -- those below `n` come first
    have hsplit : l = l.filter (·.1 < n) ++ l.filter (·.1 = n) := by
      clear ih
      induction h with
      | nil => rfl
      | @cons x rest hx _ ih =>
        have hrest := ih fun y hy => hn y (List.mem_cons_of_mem _ hy)
        by_cases hlt : x.1 < n
        · have hne : ¬ x.1 = n := by omega
          simp only [List.filter_cons, hlt, hne, decide_true, decide_false, if_true,
            Bool.false_eq_true, if_false, List.cons_append]
          rw [← hrest]
        · have heq : ∀ y ∈ x :: rest, y.1 = n := by
            intro y hy
            have hle := hn y hy
            rcases List.mem_cons.mp hy with rfl | hy
            · omega
            · have := hx y hy
              omega
          rw [List.filter_eq_nil_iff.mpr fun y hy => by simp [heq y hy],
            List.filter_eq_self.mpr fun y hy => by simp [heq y hy], List.nil_append]
    have hlow : (l.filter (·.1 < n)).Pairwise (·.1 ≤ ·.1) := h.filter _
    rw [List.range_succ, List.flatMap_append, List.flatMap_singleton]
    conv_lhs => rw [hsplit, ih hlow fun x hx => by simpa using (List.mem_filter.mp hx).2]
    congr 1
    refine List.flatMap_congr fun j hj => ?_
    rw [List.filter_filter]
    refine List.filter_congr fun x _ => ?_
    have := List.mem_range.mp hj
    by_cases hxj : x.1 = j <;> simp [hxj, this]

/-- What a pool of `works` has told on the way to the results `rs`. -/
structure Account (limit : Nat) (works : List (Work σ ε α)) (rs : List (Nat × α))
    (told : List (Nat × ε)) : Prop where
  length : rs.length = works.length
  /-- Each piece has told what it tells by itself until it ends with its result. -/
  tells : ∀ (j : Nat) w r, works[j]? = some w → rs[j]? = some r →
    w.Tells (newsOf j told) (.done r.2)
  /-- Nobody else has told anything. -/
  known : ∀ x ∈ told, x.1 < works.length
  /-- At no time were more pieces under way than there is room for. -/
  atAnyTime : ∀ before rest, told = before ++ rest →
    {j | j ∈ before.map (·.1) ∧ j ∈ rest.map (·.1)}.encard ≤ limit
  inOrder : limit ≤ 1 → told.Pairwise (·.1 ≤ ·.1)

/-- **If there is room for one piece, one tells after the other.** -/
theorem Account.eq_flatMap {rs : List (Nat × α)} (h : Account limit works rs told)
    (hlimit : limit ≤ 1) :
    told.map (·.2) = (List.range works.length).flatMap fun j => newsOf j told := by
  conv_lhs => rw [eq_flatMap_filter (h.inOrder hlimit) h.known]
  rw [List.map_flatMap]
  rfl

/-- When a pool is done, nothing is left to be told. -/
theorem Chronicle.account (h : p.Chronicle world limit works told) (hp : p.IsSound)
    {rs : List (Nat × α)} (hrs : p.results? = some rs) : Account limit works rs told := by
  obtain ⟨hlen, hget⟩ := exists_piece_of_results? hrs
  constructor
  case length => rw [hlen, h.length]
  case tells => exact fun j w r hw hr => h.tells j w _ hw (hget j r hr)
  case known =>
    intro x hx
    rw [← h.length]
    exact Nat.lt_of_lt_of_le (h.entered x hx) hp.entered_le
  case atAnyTime =>
    intro before rest htold
    refine le_trans (Set.encard_le_encard ?_) (h.atAnyTime before rest htold)
    exact fun j ⟨hj, hrest⟩ => ⟨hj, .inl hrest⟩
  case inOrder => exact fun hlimit => (h.inOrder hlimit).1

/-- **Any number of steps add to the news.** -/
theorem Chronicle.leads {policy : Policy} (h : p.Chronicle world limit works told) (hp : p.IsSound)
    (hq : Leads policy p q) : ∃ more, q.Chronicle world limit works (told ++ more) := by
  induction hq with
  | refl => exact ⟨[], by rwa [List.append_nil]⟩
  | tail hr hstep ih =>
    obtain ⟨more, hmore⟩ := ih
    obtain ⟨last, hlast⟩ := hmore.step (hp.leads hr) hstep
    exact ⟨more ++ last, by rwa [← List.append_assoc]⟩

theorem Chronicle.run {policy : Policy} (h : p.Chronicle world limit works told) (hp : p.IsSound)
    {after : World σ ε} {rs : List (Nat × α)} (hrun : p.run policy = .ok (after, rs)) :
    ∃ told, after.news = world.news ++ told.map (·.2) ∧ Account limit works rs told := by
  obtain ⟨q, hq, rfl, hrs⟩ := exists_leads_of_run hrun
  obtain ⟨more, hmore⟩ := h.leads hp hq
  exact ⟨told ++ more, hmore.news, hmore.account (hp.leads hq) hrs⟩

/-- **What a pool has told when it is done**: for each piece what the piece tells by itself, and at
no time were more pieces under way than there is room for. -/
theorem exists_account {world after : World σ ε} {limit : Nat} {works : List (Work σ ε α)}
    (hlimit : works ≠ [] → 1 ≤ limit) {policy : Policy} {rs : List (Nat × α)}
    (hrun : (start world limit works).run policy = .ok (after, rs)) :
    ∃ told, after.news = world.news ++ told.map (·.2) ∧ Account limit works rs told :=
  (Chronicle.start world limit works).run (.start world hlimit) hrun

end Pool

end PortGraph
