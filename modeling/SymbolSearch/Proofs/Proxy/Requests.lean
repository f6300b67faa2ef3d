import SymbolSearch.Proofs.Proxy.Tables

/-!
# Requests of those who work on a proxy

No request outlasts the operation or the pass that has made it.

* `ProxyMoment.Makes` — a request is made in a step.
* `ProxyCourse.Owned` — a request that is in flight belongs to the one who has made it;
  `ProxyCourse.Owned.next` shows that every event keeps it so.
* `ProxyCourse.Owned.not_has` — when someone has nothing in flight, no request that he has made is in
  any table.
-/

namespace SymbolSearch

variable {past : List ProxyMoment} {course : ProxyCourse} {event : ProxyEvent} {i : Nat}
  {a : AdapterId} {id : Nat}

/-- The one at a place makes a request in a step: its id has not been given out before. -/
inductive ProxyMoment.Makes (i : Nat) (a : AdapterId) (id : Nat) : ProxyMoment → Prop where
  | makes (course : ProxyCourse) (input : ProxyInput) (new : (course.sessionAt a).nextId ≤ id)
      (given : id < (ProxyCourse.sessionAt (proxyRules.next course (.step i input)) a).nextId) :
      Makes i a id (course, .step i input)

namespace ProxyCourse

/-- Ids are not taken back, and whoever has a request in flight begins it with a new id. -/
theorem ids_next (course : ProxyCourse) (event : ProxyEvent) (a : AdapterId) :
    (course.sessionAt a).nextId ≤ (sessionAt (proxyRules.next course event) a).nextId ∧
      ∀ j reply, repliesAt (proxyRules.next course event) a j = some reply →
        course.repliesAt a j = some reply ∨ (course.sessionAt a).nextId ≤ reply.id := by
  by_cases hevent : ∃ occurrence, event = .occur occurrence
  · obtain ⟨occurrence, rfl⟩ := hevent
    refine ⟨?_, fun j reply hreply => .inl hreply⟩
    rw [sessionAt_occur]
    split
    · exact Session.nextId_le_undergo _ _ _
    · exact Nat.le_refl _
  · obtain ⟨k, files, job?, hworks, hjobs⟩ :=
      course.works_next fun occurrence heq => hevent ⟨occurrence, heq⟩
    have hdesk : DeskMoves
        (Workplace.desk (course.shared.cache.adapters[a]?, jobOn (course.jobOf k) a))
        (Workplace.desk ((proxyRules.next course event).shared.cache.adapters[a]?,
          jobOn job? a)) := JobMove.desk_moves (hworks a)
    obtain ⟨hle, hown⟩ := hdesk.id_cases
    refine ⟨hle, fun j reply hreply => ?_⟩
    rw [repliesAt, hjobs] at hreply
    by_cases hj : j = k
    · subst hj
      rw [Function.update_self] at hreply
      exact (hown reply hreply).imp_right And.left
    · rw [Function.update_of_ne hj] at hreply
      exact .inl hreply

/-- Nobody else has a new request after a step. -/
theorem repliesAt_step_of_ne {j : Nat} (hj : j ≠ i) (input : ProxyInput) (a : AdapterId) :
    repliesAt (proxyRules.next course (.step i input)) a j = course.repliesAt a j := by
  have hgoes := course.goes_next (.step i input)
  generalize proxyRules.next course (.step i input) = course' at hgoes
  have htask : course'.task? j = course.task? j := by
    cases hgoes with
    | idles event shared tasks => rw [tasks]
    | steps _ _ _ _ _ _ tasks => rw [tasks, Function.update_of_ne hj]
  rw [repliesAt, jobsAt, jobOf, htask]
  rfl

/-- The requests that someone has made are his, as long as they are in flight. -/
def Owned (past : List ProxyMoment) (i : Nat) (course : ProxyCourse) : Prop :=
  ∀ a id, ∀ moment ∈ past, ProxyMoment.Makes i a id moment → id < (course.sessionAt a).nextId ∧
    ∀ j reply, course.repliesAt a j = some reply → reply.id = id → j = i

namespace Owned

theorem next {whole : List ProxyMoment} (h : Owned past i course)
    (htable : TableKept whole course) (event : ProxyEvent) :
    Owned (past ++ [(course, event)]) i (proxyRules.next course event) := by
  intro a id moment hmem hmakes
  obtain ⟨hle, hnew⟩ := course.ids_next event a
  rcases List.mem_append.mp hmem with hold | hlast
  · obtain ⟨hlt, howner⟩ := h a id moment hold hmakes
    refine ⟨Nat.lt_of_lt_of_le hlt hle, fun j reply hreply hid => ?_⟩
    rcases hnew j reply hreply with hbefore | hge
    · exact howner j reply hbefore hid
    · exact absurd hlt (Nat.not_lt.mpr (hid ▸ hge))
  · rw [List.mem_singleton.mp hlast] at hmakes
    cases hmakes with
    | makes _ input new given =>
      refine ⟨given, fun j reply hreply hid => ?_⟩
      by_contra hj
      rw [repliesAt_step_of_ne hj] at hreply
      have hlt := ((htable a).reply_lt j reply hreply).1
      exact absurd hlt (Nat.not_lt.mpr (hid ▸ new))

/-- Of one who has nothing in flight, no request is in any table. -/
theorem not_has {whole : List ProxyMoment} (h : Owned past i course)
    (htable : TableKept whole course) (hnone : course.task? i = none) {moment : ProxyMoment}
    (hmem : moment ∈ past) (hmakes : moment.Makes i a id) :
    ¬(course.sessionAt a).pending.Has id := by
  rintro ⟨channel, hentry⟩
  obtain ⟨j, reply, hreply, hid, -⟩ := (htable a).owned id channel hentry
  obtain rfl := (h a id moment hmem hmakes).2 j reply hreply hid
  rw [repliesAt, jobsAt, jobOf, hnone] at hreply
  cases hreply

end Owned
end ProxyCourse
end SymbolSearch
