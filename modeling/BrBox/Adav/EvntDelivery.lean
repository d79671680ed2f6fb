import BrBox.Adav.EvntNotify

/-!
# Every subscriber is notified once

The invariant of the notify loop: the entries in front of the loop index have
been sent the event, those from the index on have not.  Registering appends to
the second part.  Unregistering keeps the invariant as long as it removes
nothing from the first part; otherwise the entries move up and the loop passes
over one of them.
-/

namespace BrBox
namespace Adav

open CText
open LabelledRun

/-- The first entries are done with the event, the others are not. -/
structure Done
    (event : EventProcEntry) (sends : List (Nat × Bool))
    (done todo : List Subscription) : Prop where
  sent :
    ∀ sub ∈ done, wantsEvent event sub.entry = true →
      sendCount sends sub.uid = 1
  unsent : ∀ sub ∈ todo, sendCount sends sub.uid = 0

/-- The loop stands between the two parts of the list. -/
def AtIndex (s : NotifyState) (event : EventProcEntry) (i : Nat) : Prop :=
  ∃ done todo,
    s.eventList = done ++ todo ∧ done.length = i ∧
    Done event s.sends done todo

/-- The loop works on an entry that has the property. -/
def AtEntry
    (s : NotifyState) (event : EventProcEntry) (i : Nat)
    (P : Subscription → Prop) : Prop :=
  ∃ done sub todo,
    s.eventList = done ++ sub :: todo ∧ done.length = i ∧
    Done event s.sends done (sub :: todo) ∧ P sub

/-- One more call of `send_event`. -/
theorem sendCount_append
    (sends : List (Nat × Bool)) (uid uid' : Nat) (connected : Bool) :
    sendCount (sends ++ [(uid', connected)]) uid =
      sendCount sends uid + if uid' = uid then 1 else 0 := by
  by_cases heq : uid' = uid
  · simp [sendCount, heq]
  · simp [sendCount, heq]

/-- The list of the loop at an index, with the entry there. -/
theorem AtIndex.entry
    {s : NotifyState} {event : EventProcEntry} {i : Nat}
    (hat : AtIndex s event i) (hlt : i < s.eventList.length) :
    AtEntry s event i fun _ => True := by
  obtain ⟨done, todo, hlist, hlen, hdone⟩ := hat
  cases todo with
  | nil =>
      rw [hlist, List.append_nil] at hlt
      omega
  | cons sub todo =>
      exact ⟨done, sub, todo, hlist, hlen, hdone, trivial⟩

/-- An entry that does not want the event is done without a send. -/
theorem Done.skip
    {event : EventProcEntry} {sends : List (Nat × Bool)}
    {done todo : List Subscription} {sub : Subscription}
    (hdone : Done event sends done (sub :: todo))
    (hwants : wantsEvent event sub.entry = false) :
    Done event sends (done ++ [sub]) todo := by
  refine ⟨?_, fun other hother => hdone.unsent other (by simp [hother])⟩
  intro other hother
  rw [List.mem_append, List.mem_singleton] at hother
  rcases hother with hother | rfl
  · exact hdone.sent other hother
  · intro htrue
    rw [hwants] at htrue
    cases htrue

/-- An entry is done once the event has been sent to it. -/
theorem Done.send
    {event : EventProcEntry} {sends : List (Nat × Bool)}
    {done todo : List Subscription} {sub : Subscription} {connected : Bool}
    (hdone : Done event sends done (sub :: todo))
    (hnodup : (uids (done ++ sub :: todo)).Nodup) :
    Done event (sends ++ [(sub.uid, connected)]) (done ++ [sub]) todo := by
  simp only [uids, List.map_append, List.map_cons, List.nodup_append,
    List.nodup_cons] at hnodup
  obtain ⟨-, ⟨htodo, -⟩, hbefore⟩ := hnodup
  refine ⟨?_, ?_⟩
  · intro other hother hwants
    rw [List.mem_append, List.mem_singleton] at hother
    rw [sendCount_append]
    rcases hother with hother | rfl
    · have hne : sub.uid ≠ other.uid := fun heq =>
        hbefore _ (List.mem_map_of_mem hother) _ List.mem_cons_self heq.symm
      simp [hne, hdone.sent other hother hwants]
    · simp [hdone.unsent other List.mem_cons_self]
  · intro other hother
    have hne : sub.uid ≠ other.uid := fun heq =>
      htodo (heq ▸ List.mem_map_of_mem hother)
    rw [sendCount_append]
    simp [hne, hdone.unsent other (List.mem_cons_of_mem _ hother)]

/-- Entries of the second part may go, and new ones may come. -/
theorem Done.mono
    {event : EventProcEntry} {sends : List (Nat × Bool)}
    {done todo todo' : List Subscription}
    (hdone : Done event sends done todo)
    (hsub : ∀ sub ∈ todo', sub ∈ todo ∨ sendCount sends sub.uid = 0) :
    Done event sends done todo' := by
  refine ⟨hdone.sent, ?_⟩
  intro sub hmem
  rcases hsub sub hmem with hold | hfresh
  · exact hdone.unsent sub hold
  · exact hfresh

/-- Unregistering leaves a part without the token as it is. -/
theorem keepOthers_of_forall
    {srvToken : Int} {eventList : List Subscription}
    (hkeep : ∀ sub ∈ eventList, findEventEntry srvToken sub.entry = false) :
    keepOthers srvToken eventList = eventList := by
  refine List.filter_eq_self.mpr fun sub hsub => ?_
  simp [hkeep sub hsub]

/-- Unregistering behind the loop index. -/
theorem AtIndex.erase
    {s t : NotifyState} {event : EventProcEntry} {i : Nat} {srvToken : Int}
    (hat : AtIndex s event i)
    (hkeep :
      ∀ sub ∈ s.eventList.take i,
        findEventEntry srvToken sub.entry = false)
    (hlist : t.eventList = keepOthers srvToken s.eventList)
    (hsends : t.sends = s.sends) :
    AtIndex t event i := by
  obtain ⟨done, todo, hsplit, hlen, hdone⟩ := hat
  have htake : s.eventList.take i = done := by
    rw [hsplit, ← hlen, List.take_left']
    rfl
  rw [htake] at hkeep
  refine ⟨done, keepOthers srvToken todo, ?_, hlen, ?_⟩
  · rw [hlist, hsplit, keepOthers, List.filter_append]
    congr 1
    exact keepOthers_of_forall hkeep
  · rw [hsends]
    exact hdone.mono fun sub hsub => Or.inl (List.mem_filter.mp hsub).1

/-- Unregistering behind the entry that the loop works on. -/
theorem erase_behind
    {s : NotifyState} {i : Nat} {srvToken : Int}
    {done todo : List Subscription} {sub : Subscription}
    (hsplit : s.eventList = done ++ sub :: todo)
    (hlen : done.length = i)
    (hkeep :
      ∀ other ∈ s.eventList.take (i + 1),
        findEventEntry srvToken other.entry = false) :
    keepOthers srvToken s.eventList =
      done ++ sub :: keepOthers srvToken todo := by
  have htake : s.eventList.take (i + 1) = done ++ [sub] := by
    rw [hsplit, ← List.singleton_append, ← List.append_assoc]
    rw [List.take_left' (by simp [hlen])]
  rw [htake] at hkeep
  rw [hsplit, ← List.singleton_append, ← List.append_assoc, keepOthers,
    List.filter_append]
  have hfirst := keepOthers_of_forall hkeep
  rw [keepOthers] at hfirst
  rw [hfirst, List.append_assoc]
  rfl

/-- The loop works on an entry that stays when another one behind it goes. -/
theorem AtEntry.erase
    {s t : NotifyState} {event : EventProcEntry} {i : Nat} {srvToken : Int}
    {P : Subscription → Prop}
    (hat : AtEntry s event i P)
    (hkeep :
      ∀ sub ∈ s.eventList.take (i + 1),
        findEventEntry srvToken sub.entry = false)
    (hlist : t.eventList = keepOthers srvToken s.eventList)
    (hsends : t.sends = s.sends) :
    AtEntry t event i P := by
  obtain ⟨done, sub, todo, hsplit, hlen, hdone, hP⟩ := hat
  refine ⟨done, sub, keepOthers srvToken todo, ?_, hlen, ?_, hP⟩
  · rw [hlist, erase_behind hsplit hlen hkeep]
  · rw [hsends]
    refine hdone.mono fun other hother => Or.inl ?_
    rcases List.mem_cons.mp hother with rfl | hother
    · exact List.mem_cons_self
    · exact List.mem_cons_of_mem _ (List.mem_filter.mp hother).1

end Adav
end BrBox
