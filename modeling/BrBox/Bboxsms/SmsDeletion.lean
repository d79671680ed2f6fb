import BrBox.Lib.WhileLoop
import BrBox.Adav.TaskWorker
import Mathlib.Data.List.Perm.Subperm
import Mathlib.Data.Nat.Find

/-!
# Deleting all messages of a folder

`SmsMgr::DeleteAllSMS` walks through the messages of the phone and deletes
those of one folder; `SmsRpc::process_async_delete_all` does so for the
folders 1 to 4.  The phone library is an arbitrary environment over a finite
store: it answers every call as it likes, except that a message is read while
the walk is inside the store only, and can be deleted once.

* `deleteReturns_iff`: the walk ends unless its first message stays corrupted.
* `walk_spec`: what has been deleted when it ends.
* `deletionReported_iff`, `asyncReported_iff`: when the result can be trusted.
-/

namespace BrBox
namespace Bboxsms

open WhileLoop
open Adav (RpcSrvResult)

/-- `GSM_Error`, as far as the program tells the codes apart. -/
inductive GsmError where
  /-- `ERR_NONE` -/
  | none
  /-- `ERR_EMPTY` -/
  | empty
  /-- `ERR_CORRUPTED` -/
  | corrupted
  /-- `ERR_NOTIMPLEMENTED` -/
  | notImplemented
  /-- `ERR_NOTSUPPORTED` -/
  | notSupported
  /-- Any other code. -/
  | other (code : Nat)
deriving DecidableEq, Repr

/-- `SmsMgr::error_handler`, without the message and the disconnection. -/
def errorHandler (error : GsmError) : Int :=
  if error ≠ .none then -1 else 0

/-- How the phone answers a `GSM_GetNextSMS` that is inside the store. -/
inductive ReadOutcome where
  | message
  | corrupted
  /-- An error, with what it leaves in the folder and location of `sms`. -/
  | failed (code : Nat) (folder : Int) (location : Nat)
deriving DecidableEq, Repr

/-- The phone during one call of `DeleteAllSMS`. -/
structure GsmEnv where
  /-- `GSM_AllocStateMachine` does not return NULL. -/
  allocated : Bool
  initConnection : GsmError
  /-- `GSM_GetSMSFolders` and the `folders.Number` that it leaves. -/
  getSmsFolders : GsmError × Int
  /-- The folder of every message in the store. -/
  store : List Int
  /-- The answer to each call of `GSM_GetNextSMS`. -/
  reads : Nat → ReadOutcome
  /-- The answer to each call of `GSM_DeleteSMS`. -/
  deletions : Nat → GsmError
  terminateConnection : GsmError

/-- The walk through the store. -/
structure Walk where
  start : Bool
  /-- The message that comes next if the walk is not restarted. -/
  next : Nat
  /-- Calls of `GSM_GetNextSMS` and of `GSM_DeleteSMS` so far. -/
  reads : Nat
  deletions : Nat
  /-- The messages that have been deleted. -/
  deleted : List Nat
  /-- The messages that have been read as corrupted; no function looks at it. -/
  corrupted : List Nat
  /-- Some read or deletion has failed; no function looks at it. -/
  failed : Bool
deriving DecidableEq, Repr

/-- The walk before its first message. -/
def Walk.initial : Walk where
  start := true
  next := 0
  reads := 0
  deletions := 0
  deleted := []
  corrupted := []
  failed := false

/-- The message that the next `GSM_GetNextSMS` is about. -/
def Walk.index (w : Walk) : Nat :=
  if w.start then 0 else w.next

/-- `GSM_GetNextSMS`: its error, and the folder and location in `sms`. -/
def getNextSms (env : GsmEnv) (w : Walk) : (GsmError × Int × Nat) × Walk :=
  let t := { w with reads := w.reads + 1, next := w.index + 1 }
  match env.reads w.reads with
  | .failed code folder location =>
      ((.other code, folder, location), { t with failed := true })
  | .corrupted =>
      if w.index < env.store.length then
        ((.corrupted, 0, 0), { t with corrupted := w.index :: w.corrupted })
      else
        ((.empty, 0, 0), t)
  | .message =>
      match env.store[w.index]? with
      | some folder => ((.none, folder, w.index), t)
      | none => ((.empty, 0, 0), t)

/-- `GSM_DeleteSMS`: it can succeed on a message that is there only. -/
def deleteSms (env : GsmEnv) (w : Walk) (location : Nat) : GsmError × Walk :=
  let t := { w with deletions := w.deletions + 1 }
  if env.deletions w.deletions ≠ .none then
    (env.deletions w.deletions, { t with failed := true })
  else if env.store.length ≤ location ∨ location ∈ w.deleted then
    (.empty, { t with failed := true })
  else
    (.none, { t with deleted := location :: w.deleted })

/-- One round of the loop of `DeleteAllSMS`. -/
def deleteRound
    (env : GsmEnv) (foldernum : Int) (w : Walk) : GsmError × Walk :=
  match getNextSms env w with
  | ((.empty, _, _), w) => (.empty, { w with start := false })
  -- `continue` passes by the assignment to `start`
  | ((.corrupted, _, _), w) => (.none, w)
  | ((error, folder, location), w) =>
      if folder = foldernum then
        let (error, w) := deleteSms env w location
        (error, { w with start := false })
      else
        (error, { w with start := false })

/-- `while (error == ERR_NONE)`. -/
def deleteBody
    (env : GsmEnv) (foldernum : Int) (s : GsmError × Walk) :
    (GsmError × Walk) ⊕ Walk :=
  if s.1 = .none then .inl (deleteRound env foldernum s.2) else .inr s.2

/-- What `DeleteAllSMS` returns, and how far its walk has come. -/
structure DeleteRun where
  code : Int
  walk : Walk
deriving DecidableEq, Repr

/-- `DeleteAllSMS`, with at most `fuel` rounds of its loop. -/
def deleteAllSms
    (env : GsmEnv) (foldernum : Int) (fuel : Nat) : Option DeleteRun :=
  if env.allocated = false then
    some { code := -1, walk := Walk.initial }
  else if errorHandler env.initConnection ≠ 0 then
    some { code := -1, walk := Walk.initial }
  else if env.getSmsFolders.2 < foldernum then
    -- the connection is terminated, with -1 whether that succeeds or not
    some { code := -1, walk := Walk.initial }
  else
    match loop (deleteBody env foldernum) fuel
        (env.getSmsFolders.1, Walk.initial) with
    | none => none
    | some w =>
        if errorHandler env.terminateConnection ≠ 0 then
          some { code := -1, walk := w }
        else
          some { code := 0, walk := w }

/-- `DeleteAllSMS` returns, with this result. -/
def DeleteReturns (env : GsmEnv) (foldernum : Int) (r : DeleteRun) : Prop :=
  ∃ fuel, deleteAllSms env foldernum fuel = some r

/-- No call has failed, and the folder holds corrupted messages at most. -/
structure Emptied (env : GsmEnv) (foldernum : Int) (r : DeleteRun) : Prop where
  listed : env.getSmsFolders.1 = .none
  noFailure : r.walk.failed = false
  deleted : ∀ i, env.store[i]? = some foldernum →
    i ∈ r.walk.deleted ∨ i ∈ r.walk.corrupted

/-- The call returns, and returns 0 only if the folder has been emptied. -/
def DeletionReported (env : GsmEnv) (foldernum : Int) : Prop :=
  ∃ r, DeleteReturns env foldernum r ∧ (r.code = 0 → Emptied env foldernum r)

/-- The answer is an error. -/
def ReadOutcome.isFailed : ReadOutcome → Bool
  | .failed _ _ _ => true
  | _ => false

/--
From read `k` and deletion `d` on, the walk through the rest of the store meets
no error.
-/
def WalkClean (env : GsmEnv) (foldernum : Int) : List Int → (k d : Nat) → Prop
  | [], k, _ => (env.reads k).isFailed = false
  | folder :: rest, k, d =>
      match env.reads k with
      | .failed _ _ _ => False
      | .corrupted => WalkClean env foldernum rest (k + 1) d
      | .message =>
          if folder = foldernum then
            env.deletions d = .none ∧ WalkClean env foldernum rest (k + 1) (d + 1)
          else
            WalkClean env foldernum rest (k + 1) d

/-- Read `m` is the first one that does not find the first message corrupted. -/
def FirstRead (env : GsmEnv) (m : Nat) : Prop :=
  (∀ k < m, env.store ≠ [] ∧ env.reads k = .corrupted) ∧
    (env.store = [] ∨ env.reads m ≠ .corrupted)

/-- What has been deleted is in the store, each message once. -/
structure WalkOk (env : GsmEnv) (w : Walk) : Prop where
  nodup : w.deleted.Nodup
  inside : ∀ d ∈ w.deleted, d < env.store.length

/-- There are not more deletions than messages. -/
theorem WalkOk.length_le
    {env : GsmEnv} {w : Walk}
    (hok : WalkOk env w) :
    w.deleted.length ≤ env.store.length := by
  have hsub : w.deleted ⊆ List.range env.store.length := by
    intro d hd
    exact List.mem_range.mpr (hok.inside d hd)
  have hle := (hok.nodup.subperm hsub).length_le
  rwa [List.length_range] at hle

/-- What a deletion can do. -/
theorem deleteSms_cases
    (env : GsmEnv) (w : Walk) (location : Nat) :
    (env.deletions w.deletions = .none ∧
      location < env.store.length ∧ location ∉ w.deleted ∧
      deleteSms env w location =
        (.none,
          { w with
            deletions := w.deletions + 1
            deleted := location :: w.deleted })) ∨
    ((env.deletions w.deletions ≠ .none ∨
        env.store.length ≤ location ∨ location ∈ w.deleted) ∧
      ∃ error, error ≠ .none ∧
        deleteSms env w location =
          (error, { w with deletions := w.deletions + 1, failed := true })) := by
  unfold deleteSms
  by_cases herror : env.deletions w.deletions ≠ .none
  · exact Or.inr ⟨Or.inl herror, _, herror, by rw [if_pos herror]⟩
  · by_cases hthere : env.store.length ≤ location ∨ location ∈ w.deleted
    · exact Or.inr
        ⟨Or.inr hthere, .empty, by decide, by rw [if_neg herror, if_pos hthere]⟩
    · rw [not_or] at hthere
      exact Or.inl
        ⟨not_not.mp herror, Nat.not_le.mp hthere.1, hthere.2, by
          rw [if_neg herror, if_neg (not_or.mpr hthere)]⟩

/-- The state of the walk after a read. -/
def Walk.afterRead (w : Walk) : Walk :=
  { w with reads := w.reads + 1, next := w.index + 1 }

/-- What a round does, by the answer to its read. -/
theorem deleteRound_failed
    {env : GsmEnv} {foldernum : Int} {w : Walk} {code : Nat} {folder : Int} {location : Nat}
    (hread : env.reads w.reads = .failed code folder location) :
    deleteRound env foldernum w =
      if folder = foldernum then
        ((deleteSms env { w.afterRead with failed := true } location).1,
          { (deleteSms env { w.afterRead with failed := true } location).2 with
            start := false })
      else
        (.other code, { w.afterRead with failed := true, start := false }) := by
  simp only [deleteRound, getNextSms, hread]
  rfl

theorem deleteRound_corrupted
    {env : GsmEnv} {foldernum : Int} {w : Walk}
    (hread : env.reads w.reads = .corrupted)
    (hindex : w.index < env.store.length) :
    deleteRound env foldernum w =
      (.none, { w.afterRead with corrupted := w.index :: w.corrupted }) := by
  simp only [deleteRound, getNextSms, hread, if_pos hindex]
  rfl

theorem deleteRound_end
    {env : GsmEnv} {foldernum : Int} {w : Walk}
    (hread : (env.reads w.reads).isFailed = false)
    (hindex : env.store.length ≤ w.index) :
    deleteRound env foldernum w =
      (.empty, { w.afterRead with start := false }) := by
  have hnone : env.store[w.index]? = none := List.getElem?_eq_none hindex
  cases hanswer : env.reads w.reads with
  | message =>
      simp only [deleteRound, getNextSms, hanswer, hnone]
      rfl
  | corrupted =>
      simp only [deleteRound, getNextSms, hanswer, if_neg (Nat.not_lt.mpr hindex)]
      rfl
  | failed code folder location =>
      rw [hanswer] at hread
      cases hread

theorem deleteRound_message
    {env : GsmEnv} {foldernum : Int} {w : Walk} {folder : Int}
    (hread : env.reads w.reads = .message)
    (hfolder : env.store[w.index]? = some folder) :
    deleteRound env foldernum w =
      if folder = foldernum then
        ((deleteSms env w.afterRead w.index).1,
          { (deleteSms env w.afterRead w.index).2 with start := false })
      else
        (.none, { w.afterRead with start := false }) := by
  simp only [deleteRound, getNextSms, hread, hfolder]
  rfl

/-- How far the walk still is from its end. -/
def Walk.left (env : GsmEnv) (w : Walk) : Nat :=
  (env.store.length - w.next) + (env.store.length - w.deleted.length)

/-- A deletion that follows a read: the walk stays in order and gets on. -/
theorem deleteSms_progress
    {env : GsmEnv} {w : Walk} {location : Nat}
    (hok : WalkOk env w) :
    WalkOk env (deleteSms env w location).2 ∧
      (deleteSms env w location).2.next = w.next ∧
      ((deleteSms env w location).1 = .none →
        (deleteSms env w location).2.deleted.length = w.deleted.length + 1) := by
  rcases deleteSms_cases env w location with
    ⟨-, hinside, hnew, heq⟩ | ⟨-, error, herror, heq⟩
  · rw [heq]
    refine ⟨⟨List.nodup_cons.mpr ⟨hnew, hok.nodup⟩, ?_⟩, rfl, fun _ => rfl⟩
    intro d hd
    rcases List.mem_cons.mp hd with rfl | hd
    · exact hinside
    · exact hok.inside d hd
  · rw [heq]
    exact ⟨⟨hok.nodup, hok.inside⟩, rfl, fun h => absurd h herror⟩

/-- Every round that goes on gets nearer to the end of the walk. -/
theorem deleteRound_progress
    {env : GsmEnv} {foldernum : Int} {w : Walk}
    (hstart : w.start = false)
    (hok : WalkOk env w) :
    (deleteRound env foldernum w).2.start = false ∧
      WalkOk env (deleteRound env foldernum w).2 ∧
      ((deleteRound env foldernum w).1 = .none →
        (deleteRound env foldernum w).2.left env < w.left env) := by
  have hindex : w.index = w.next := by
    simp [Walk.index, hstart]
  have hdeletion :
      ∀ (v : Walk) (location : Nat),
        v.deleted = w.deleted → v.next = w.index + 1 →
        WalkOk env { (deleteSms env v location).2 with start := false } ∧
        ((deleteSms env v location).1 = .none →
          Walk.left env { (deleteSms env v location).2 with start := false } <
            w.left env) := by
    intro v location hdeleted hnext
    have hv : WalkOk env v := ⟨hdeleted ▸ hok.nodup, hdeleted ▸ hok.inside⟩
    obtain ⟨hok', hnext', hlength⟩ := @deleteSms_progress env v location hv
    refine ⟨⟨hok'.nodup, hok'.inside⟩, ?_⟩
    intro hnone
    have hlen := hlength hnone
    have hle := hok'.length_le
    simp only [Walk.left, hnext', hnext, hlen, hdeleted, hindex] at hle ⊢
    omega
  cases hread : env.reads w.reads with
  | failed code folder location =>
      rw [deleteRound_failed hread]
      by_cases hfolder : folder = foldernum
      · rw [if_pos hfolder]
        exact ⟨rfl, hdeletion { w.afterRead with failed := true } location rfl rfl⟩
      · rw [if_neg hfolder]
        exact ⟨rfl, ⟨hok.nodup, hok.inside⟩, fun h => absurd h (by simp)⟩
  | corrupted =>
      by_cases hinside : w.index < env.store.length
      · rw [deleteRound_corrupted hread hinside]
        refine ⟨hstart, ⟨hok.nodup, hok.inside⟩, fun _ => ?_⟩
        simp only [Walk.left, Walk.afterRead]
        omega
      · rw [deleteRound_end (by rw [hread]; rfl) (Nat.not_lt.mp hinside)]
        exact ⟨rfl, ⟨hok.nodup, hok.inside⟩, fun h => absurd h (by simp)⟩
  | message =>
      by_cases hinside : w.index < env.store.length
      · rw [deleteRound_message hread (List.getElem?_eq_getElem hinside)]
        split
        · exact ⟨rfl, hdeletion w.afterRead w.index rfl rfl⟩
        · refine ⟨rfl, ⟨hok.nodup, hok.inside⟩, fun _ => ?_⟩
          simp only [Walk.left, Walk.afterRead]
          omega
      · rw [deleteRound_end (by rw [hread]; rfl) (Nat.not_lt.mp hinside)]
        exact ⟨rfl, ⟨hok.nodup, hok.inside⟩, fun h => absurd h (by simp)⟩

/-- A walk that is not to be restarted ends. -/
theorem exists_returns_of_started
    {env : GsmEnv} {foldernum : Int} {w : Walk}
    (hstart : w.start = false)
    (hok : WalkOk env w)
    (error : GsmError) :
    ∃ final, Returns (deleteBody env foldernum) (error, w) final := by
  refine exists_returns_of_measure
    (I := fun s => s.2.start = false ∧ WalkOk env s.2)
    (fun s => if s.1 = .none then s.2.left env + 1 else 0)
    ?_ ⟨hstart, hok⟩
  rintro ⟨e, v⟩ t ⟨hv, hvok⟩ hbody
  by_cases he : e = .none
  · rw [deleteBody, if_pos he, Sum.inl.injEq] at hbody
    subst hbody
    obtain ⟨hstart', hok', hless⟩ := @deleteRound_progress env foldernum v hv hvok
    refine ⟨⟨hstart', hok'⟩, ?_⟩
    by_cases hnext : (deleteRound env foldernum v).1 = .none
    · have := hless hnext
      simp only [hnext, he, if_true]
      omega
    · simp only [hnext, he, if_true, if_false]
      omega
  · rw [deleteBody, if_neg he] at hbody
    cases hbody

/-- Nothing that a walk has noted is forgotten. -/
structure Walk.Extends (w v : Walk) : Prop where
  failed : w.failed = true → v.failed = true
  deleted : w.deleted ⊆ v.deleted
  corrupted : w.corrupted ⊆ v.corrupted

theorem Walk.Extends.refl
    (w : Walk) :
    w.Extends w where
  failed := id
  deleted := List.Subset.refl _
  corrupted := List.Subset.refl _

theorem Walk.Extends.trans
    {u w v : Walk}
    (huw : u.Extends w)
    (hwv : w.Extends v) :
    u.Extends v where
  failed := fun h => hwv.failed (huw.failed h)
  deleted := List.Subset.trans huw.deleted hwv.deleted
  corrupted := List.Subset.trans huw.corrupted hwv.corrupted

theorem getNextSms_extends
    (env : GsmEnv) (w : Walk) :
    w.Extends (getNextSms env w).2 := by
  unfold getNextSms
  cases env.reads w.reads with
  | failed code folder location =>
      exact ⟨fun _ => rfl, List.Subset.refl _, List.Subset.refl _⟩
  | corrupted =>
      simp only
      split
      · exact ⟨id, List.Subset.refl _, List.subset_cons_self _ _⟩
      · exact ⟨id, List.Subset.refl _, List.Subset.refl _⟩
  | message =>
      cases env.store[w.index]? with
      | none =>
          exact ⟨id, List.Subset.refl _, List.Subset.refl _⟩
      | some folder =>
          exact ⟨id, List.Subset.refl _, List.Subset.refl _⟩

theorem deleteSms_extends
    (env : GsmEnv) (w : Walk) (location : Nat) :
    w.Extends (deleteSms env w location).2 := by
  rcases deleteSms_cases env w location with ⟨-, -, -, heq⟩ | ⟨-, error, -, heq⟩
  · rw [heq]
    exact ⟨id, List.subset_cons_self _ _, List.Subset.refl _⟩
  · rw [heq]
    exact ⟨fun _ => rfl, List.Subset.refl _, List.Subset.refl _⟩

theorem deleteRound_extends
    (env : GsmEnv) (foldernum : Int) (w : Walk) :
    w.Extends (deleteRound env foldernum w).2 := by
  have hread := getNextSms_extends env w
  unfold deleteRound
  rcases hanswer : getNextSms env w with ⟨⟨error, folder, location⟩, v⟩
  rw [hanswer] at hread
  have hstop : w.Extends { v with start := false } :=
    ⟨hread.failed, hread.deleted, hread.corrupted⟩
  have hdelete := hread.trans (deleteSms_extends env v location)
  have hdeleted : w.Extends { (deleteSms env v location).2 with start := false } :=
    ⟨hdelete.failed, hdelete.deleted, hdelete.corrupted⟩
  cases error with
  | empty =>
      exact hstop
  | corrupted =>
      exact hread
  | none | notImplemented | notSupported | other _ =>
      simp only
      split
      · exact hdeleted
      · exact hstop

theorem deleteBody_none
    (env : GsmEnv) (foldernum : Int) (w : Walk) :
    deleteBody env foldernum (.none, w) = .inl (deleteRound env foldernum w) :=
  rfl

theorem deleteBody_error
    (env : GsmEnv) (foldernum : Int) (w : Walk) {error : GsmError}
    (herror : error ≠ .none) :
    deleteBody env foldernum (error, w) = .inr w := by
  rw [deleteBody, if_neg herror]

/-- What has been noted before is there when the walk ends. -/
theorem extends_of_returns
    {env : GsmEnv} {foldernum : Int} {error : GsmError} {w final : Walk}
    (hreturns : Returns (deleteBody env foldernum) (error, w) final) :
    w.Extends final := by
  have hround :
      ∀ s t, w.Extends s.2 → deleteBody env foldernum s = .inl t → w.Extends t.2 := by
    rintro ⟨e, v⟩ t hv hbody
    by_cases he : e = .none
    · subst he
      rw [deleteBody_none, Sum.inl.injEq] at hbody
      rw [← hbody]
      exact hv.trans (deleteRound_extends env foldernum v)
    · rw [deleteBody_error env foldernum v he] at hbody
      cases hbody
  obtain ⟨⟨e, v⟩, hextends, hlast⟩ := hreturns.invariant hround (Walk.Extends.refl w)
  by_cases he : e = .none
  · subst he
    rw [deleteBody_none] at hlast
    cases hlast
  · rw [deleteBody_error env foldernum v he, Sum.inr.injEq] at hlast
    rwa [← hlast]

/-- A read that fails is noted, whatever the deletion after it does. -/
theorem deleteRound_isFailed
    {env : GsmEnv} {foldernum : Int} {w : Walk}
    (hread : (env.reads w.reads).isFailed = true) :
    (deleteRound env foldernum w).2.failed = true := by
  cases hanswer : env.reads w.reads with
  | message =>
      rw [hanswer] at hread
      cases hread
  | corrupted =>
      rw [hanswer] at hread
      cases hread
  | failed code folder location =>
      rw [deleteRound_failed hanswer]
      split
      · exact (deleteSms_extends env { w.afterRead with failed := true } location).failed rfl
      · rfl

/-- The message under the walk and the rest of the store behind it. -/
theorem drop_next
    {env : GsmEnv} {n : Nat} {folder : Int} {rest : List Int}
    (hrest : env.store.drop n = folder :: rest) :
    env.store[n]? = some folder ∧ env.store.drop (n + 1) = rest ∧
      n < env.store.length := by
  have hfolder : env.store[n]? = some folder := by
    rw [← List.head?_drop, hrest, List.head?_cons]
  refine ⟨hfolder, ?_, ?_⟩
  · rw [← List.tail_drop, hrest, List.tail_cons]
  · exact (List.getElem?_eq_some_iff.mp hfolder).1

/--
What a walk with this rest of the store before it leaves at its end: it has met
no failure exactly if the rest is clean, and has then dealt with every message.
-/
structure Walk.Leaves
    (env : GsmEnv) (foldernum : Int) (rest : List Int) (w final : Walk) : Prop where
  clean : final.failed = false ↔ WalkClean env foldernum rest w.reads w.deletions
  emptied : final.failed = false → ∀ i, w.next ≤ i → env.store[i]? = some foldernum →
    i ∈ final.deleted ∨ i ∈ final.corrupted

/-- A failure that has been noted at the first message of the rest. -/
theorem Walk.Leaves.of_failed
    {env : GsmEnv} {foldernum : Int} {rest : List Int} {w final : Walk}
    (hfinal : final.failed = true)
    (hclean : ¬ WalkClean env foldernum rest w.reads w.deletions) :
    w.Leaves env foldernum rest final where
  clean := by simp [hfinal, hclean]
  emptied := by simp [hfinal]

/-- Behind the last message nothing is left to do. -/
theorem walk_end
    {env : GsmEnv} {foldernum : Int} {w final : Walk}
    (hend : env.store.length ≤ w.next)
    (hstart : w.start = false)
    (hfailed : w.failed = false)
    (hreturns : Returns (deleteBody env foldernum) (.none, w) final) :
    w.Leaves env foldernum [] final := by
  rw [returns_iff_of_inl (deleteBody_none env foldernum w)] at hreturns
  cases hread : (env.reads w.reads).isFailed with
  | true =>
      refine .of_failed ((extends_of_returns hreturns).failed (deleteRound_isFailed hread)) ?_
      simp [WalkClean, hread]
  | false =>
      have hindex : env.store.length ≤ w.index := by
        rwa [Walk.index, hstart]
      rw [deleteRound_end hread hindex] at hreturns
      have hlast := hreturns.unique (returns_of_inr (deleteBody_error _ _ _ (by decide)))
      refine ⟨by simp [WalkClean, hread, hlast, Walk.afterRead, hfailed], ?_⟩
      intro _ i hi hfolder
      have hlt := (List.getElem?_eq_some_iff.mp hfolder).1
      omega

/-- A walk that has got one message further without a failure. -/
theorem Walk.Leaves.further
    {env : GsmEnv} {foldernum folder : Int} {rest : List Int} {w final : Walk}
    (v : Walk)
    (hfolder : env.store[w.next]? = some folder)
    (hnext : v.next = w.next + 1)
    (hextends : v.Extends final)
    (hhere : folder = foldernum → w.next ∈ v.deleted ∨ w.next ∈ v.corrupted)
    (hclean : WalkClean env foldernum (folder :: rest) w.reads w.deletions ↔
      WalkClean env foldernum rest v.reads v.deletions)
    (hv : v.Leaves env foldernum rest final) :
    w.Leaves env foldernum (folder :: rest) final where
  clean := hv.clean.trans hclean.symm
  emptied := by
    intro hdone i hi hi'
    by_cases heq : i = w.next
    · subst heq
      have hsame : folder = foldernum := by
        rw [hfolder] at hi'
        exact Option.some.inj hi'
      rcases hhere hsame with hmem | hmem
      · exact Or.inl (hextends.deleted hmem)
      · exact Or.inr (hextends.corrupted hmem)
    · exact hv.emptied hdone i (by omega) hi'

/--
What a walk does from inside the store on.  It is followed message by message;
only the messages that it has passed have been deleted.
-/
theorem walk_spec
    {env : GsmEnv} {foldernum : Int}
    (rest : List Int)
    {w final : Walk}
    (hrest : env.store.drop w.next = rest)
    (hstart : w.start = false)
    (hfailed : w.failed = false)
    (hdeleted : ∀ d ∈ w.deleted, d < w.next)
    (hreturns : Returns (deleteBody env foldernum) (.none, w) final) :
    w.Leaves env foldernum rest final := by
  induction rest generalizing w with
  | nil =>
      exact walk_end (List.drop_eq_nil_iff.mp hrest) hstart hfailed hreturns
  | cons folder rest ih =>
      obtain ⟨hfolder, hrest', hinside⟩ := drop_next hrest
      have hindex : w.index = w.next := by
        rw [Walk.index, hstart]
        rfl
      rw [returns_iff_of_inl (deleteBody_none env foldernum w)] at hreturns
      have hbefore : ∀ d ∈ w.deleted, d < w.next + 1 := by
        intro d hd
        have := hdeleted d hd
        omega
      cases hread : env.reads w.reads with
      | failed code f location =>
          have hnoted := (extends_of_returns hreturns).failed
            (deleteRound_isFailed (by rw [hread]; rfl))
          exact .of_failed hnoted (by simp [WalkClean, hread])
      | corrupted =>
          rw [deleteRound_corrupted hread (by rwa [hindex]), hindex] at hreturns
          have hnext : w.afterRead.next = w.next + 1 := by
            rw [Walk.afterRead, hindex]
          exact .further { w.afterRead with corrupted := w.next :: w.corrupted }
            hfolder hnext (extends_of_returns hreturns)
            (fun _ => Or.inr List.mem_cons_self)
            (by simp [WalkClean, hread, Walk.afterRead])
            (ih (by simp only [hnext, hrest']) hstart hfailed (by simpa only [hnext])
              hreturns)
      | message =>
          rw [deleteRound_message hread (by rw [hindex]; exact hfolder), hindex] at hreturns
          have hnext : w.afterRead.next = w.next + 1 := by
            rw [Walk.afterRead, hindex]
          by_cases hsame : folder = foldernum
          · rw [if_pos hsame] at hreturns
            rcases deleteSms_cases env w.afterRead w.next with
              ⟨hdeletion, -, -, heq⟩ | ⟨hwhy, error, herror, heq⟩
            · rw [heq] at hreturns
              have hdeletion' : env.deletions w.deletions = .none := hdeletion
              refine .further
                { w.afterRead with
                  deletions := w.deletions + 1
                  deleted := w.next :: w.deleted
                  start := false }
                hfolder hnext (extends_of_returns hreturns)
                (fun _ => Or.inl List.mem_cons_self)
                (by simp [WalkClean, hread, hsame, hdeletion', Walk.afterRead])
                (ih (by simp only [hnext, hrest']) rfl hfailed ?_ hreturns)
              intro d hd
              simp only [hnext]
              rcases List.mem_cons.mp hd with rfl | hd
              · exact Nat.lt_succ_self _
              · exact hbefore d hd
            · rw [heq] at hreturns
              have hdeletion : env.deletions w.deletions ≠ .none := by
                rcases hwhy with h | h | h
                · exact h
                · omega
                · exact absurd (hdeleted _ h) (Nat.lt_irrefl _)
              exact .of_failed ((extends_of_returns hreturns).failed rfl)
                (by simp [WalkClean, hread, hsame, hdeletion])
          · rw [if_neg hsame] at hreturns
            exact .further { w.afterRead with start := false }
              hfolder hnext (extends_of_returns hreturns)
              (fun h => absurd h hsame)
              (by simp [WalkClean, hread, hsame, Walk.afterRead])
              (ih (by simp only [hnext, hrest']) rfl hfailed (by simpa only [hnext])
                hreturns)

/-- The walk after `m` reads that have found its first message corrupted. -/
def Walk.skipped (m : Nat) : Walk where
  start := true
  next := min m 1
  reads := m
  deletions := 0
  deleted := []
  corrupted := List.replicate m 0
  failed := false

/-- A corrupted first message is read again. -/
theorem returns_skipped
    {env : GsmEnv} {foldernum : Int} {final : Walk}
    (m : Nat)
    (hcorrupted : ∀ k < m, env.store ≠ [] ∧ env.reads k = .corrupted) :
    Returns (deleteBody env foldernum) (.none, Walk.initial) final ↔
      Returns (deleteBody env foldernum) (.none, Walk.skipped m) final := by
  induction m with
  | zero =>
      rfl
  | succ m ih =>
      rw [ih (fun k hk => hcorrupted k (by omega))]
      obtain ⟨hstore, hread⟩ := hcorrupted m (Nat.lt_succ_self m)
      have hround :
          deleteRound env foldernum (Walk.skipped m) =
            (.none, Walk.skipped (m + 1)) := by
        have hfirst : (Walk.skipped m).index < env.store.length :=
          List.length_pos_of_ne_nil hstore
        have hread' : env.reads (Walk.skipped m).reads = .corrupted := hread
        rw [deleteRound_corrupted hread' hfirst]
        simp [Walk.afterRead, Walk.skipped, Walk.index, List.replicate_succ]
      rw [returns_iff_of_inl (deleteBody_none env foldernum _), hround]

/-- `start` is not looked at by a deletion. -/
theorem deleteSms_start
    (env : GsmEnv) (w : Walk) (location : Nat) :
    deleteSms env { w with start := false } location =
      ((deleteSms env w location).1,
        { (deleteSms env w location).2 with start := false }) := by
  unfold deleteSms
  simp only
  split
  · rfl
  · split
    · rfl
    · rfl

/-- Any other first read leaves the walk as if it had been at its first message. -/
theorem deleteRound_restart
    {env : GsmEnv} {foldernum : Int} {w v : Walk}
    (hstart : w.start = true)
    (hv : v = { w with start := false, next := 0 })
    (hread : env.store = [] ∨ env.reads w.reads ≠ .corrupted) :
    deleteRound env foldernum w = deleteRound env foldernum v := by
  have hindex : w.index = 0 := by
    rw [Walk.index, hstart]
    rfl
  have hindex' : v.index = 0 := by
    rw [hv]
    rfl
  have hafter : v.afterRead = { w.afterRead with start := false } := by
    rw [hv]
    simp [Walk.afterRead, Walk.index, hstart]
  have hreads : v.reads = w.reads := by
    rw [hv]
  have hover :
      (env.reads w.reads).isFailed = false → env.store.length ≤ 0 →
        deleteRound env foldernum w = deleteRound env foldernum v := by
    intro hnotFailed hstore
    rw [deleteRound_end hnotFailed (by rwa [hindex]),
      deleteRound_end (w := v) (by rwa [hreads]) (by rwa [hindex']), hafter]
  cases hanswer : env.reads w.reads with
  | failed code folder location =>
      rw [deleteRound_failed hanswer,
        deleteRound_failed (w := v) (by rw [hreads]; exact hanswer), hafter]
      simp only
      rw [deleteSms_start env { w.afterRead with failed := true } location]
  | corrupted =>
      have hstore : env.store.length ≤ 0 := by
        rcases hread with h | h
        · simp [h]
        · exact absurd hanswer h
      exact hover (by rw [hanswer]; rfl) hstore
  | message =>
      cases hfolder : env.store[0]? with
      | none =>
          exact hover (by rw [hanswer]; rfl) (List.getElem?_eq_none_iff.mp hfolder)
      | some folder =>
          rw [deleteRound_message hanswer (by rwa [hindex]),
            deleteRound_message (w := v) (by rwa [hreads]) (by rwa [hindex']),
            hafter, hindex, hindex', deleteSms_start env w.afterRead]

/-- The walk as it is once its first message has been read otherwise. -/
theorem returns_firstRead
    {env : GsmEnv} {foldernum : Int} {final : Walk} {m : Nat}
    (hm : FirstRead env m) :
    Returns (deleteBody env foldernum) (.none, Walk.initial) final ↔
      Returns (deleteBody env foldernum)
        (.none, { Walk.skipped m with start := false, next := 0 }) final := by
  rw [returns_skipped m hm.1, returns_iff_of_inl (deleteBody_none env foldernum _),
    returns_iff_of_inl (deleteBody_none env foldernum _),
    deleteRound_restart (w := Walk.skipped m) rfl rfl hm.2]

/-- A walk that has such a read ends. -/
theorem exists_returns_of_firstRead
    {env : GsmEnv} {m : Nat}
    (foldernum : Int)
    (hm : FirstRead env m) :
    ∃ final, Returns (deleteBody env foldernum) (.none, Walk.initial) final := by
  obtain ⟨final, hfinal⟩ :=
    @exists_returns_of_started env foldernum
      { Walk.skipped m with start := false, next := 0 } rfl
      ⟨List.nodup_nil, by simp [Walk.skipped]⟩ .none
  exact ⟨final, (returns_firstRead hm).mpr hfinal⟩

/-- A walk ends only if it has such a read. -/
theorem firstRead_of_returns
    {env : GsmEnv} {foldernum : Int} {final : Walk}
    (hreturns : Returns (deleteBody env foldernum) (.none, Walk.initial) final) :
    ∃ m, FirstRead env m := by
  by_cases hread : ∃ m, env.store = [] ∨ env.reads m ≠ .corrupted
  · classical
    refine ⟨Nat.find hread, ?_, Nat.find_spec hread⟩
    intro k hk
    have hbefore := Nat.find_min hread hk
    rw [not_or, not_not] at hbefore
    exact hbefore
  · exfalso
    rw [not_exists] at hread
    refine diverges_of_invariant
      (I := fun s : GsmError × Walk => s.1 = .none ∧ s.2.start = true)
      ?_ ⟨rfl, rfl⟩ final hreturns
    rintro ⟨e, w⟩ ⟨rfl, hstart⟩
    have hcorrupted := hread w.reads
    rw [not_or, not_not] at hcorrupted
    have hindex : w.index = 0 := by
      rw [Walk.index, hstart]
      rfl
    have hinside : w.index < env.store.length := by
      rw [hindex]
      exact List.length_pos_of_ne_nil hcorrupted.1
    have hround := @deleteRound_corrupted env foldernum w hcorrupted.2 hinside
    exact ⟨_, deleteBody_none env foldernum w, by rw [hround], by rw [hround]; exact hstart⟩

/-- What the walk from the beginning does. -/
theorem walk_firstRead
    {env : GsmEnv} {foldernum : Int} {final : Walk} {m : Nat}
    (hm : FirstRead env m)
    (hreturns : Returns (deleteBody env foldernum) (.none, Walk.initial) final) :
    (final.failed = false ↔ WalkClean env foldernum env.store m 0) ∧
      (final.failed = false → ∀ i, env.store[i]? = some foldernum →
        i ∈ final.deleted ∨ i ∈ final.corrupted) := by
  obtain ⟨hclean, hdone⟩ :=
    @walk_spec env foldernum env.store
      { Walk.skipped m with start := false, next := 0 } final rfl rfl rfl
      (by simp [Walk.skipped]) ((returns_firstRead hm).mp hreturns)
  exact ⟨hclean, fun h i hi => hdone h i (Nat.zero_le i) hi⟩

/-- The call fails before it has looked at a message. -/
def EarlyFailure (env : GsmEnv) (foldernum : Int) : Prop :=
  env.allocated = false ∨ env.initConnection ≠ .none ∨ env.getSmsFolders.2 < foldernum

theorem errorHandler_eq_zero_iff
    (error : GsmError) :
    errorHandler error = 0 ↔ error = .none := by
  by_cases h : error = .none
  · simp [errorHandler, h]
  · simp [errorHandler, h]

theorem deleteAllSms_of_earlyFailure
    {env : GsmEnv} {foldernum : Int}
    (hearly : EarlyFailure env foldernum)
    (fuel : Nat) :
    deleteAllSms env foldernum fuel =
      some { code := -1, walk := Walk.initial } := by
  unfold deleteAllSms
  by_cases halloc : env.allocated = false
  · rw [if_pos halloc]
  · rw [if_neg halloc]
    by_cases hinit : errorHandler env.initConnection ≠ 0
    · rw [if_pos hinit]
    · rw [if_neg hinit]
      rcases hearly with h | h | h
      · exact absurd h halloc
      · exact absurd ((errorHandler_eq_zero_iff _).mp (not_not.mp hinit)) h
      · rw [if_pos h]

theorem deleteAllSms_of_not_earlyFailure
    {env : GsmEnv} {foldernum : Int}
    (hearly : ¬ EarlyFailure env foldernum)
    (fuel : Nat) :
    deleteAllSms env foldernum fuel =
      (loop (deleteBody env foldernum) fuel
        (env.getSmsFolders.1, Walk.initial)).map
          (fun w => { code := errorHandler env.terminateConnection, walk := w }) := by
  simp only [EarlyFailure, not_or, not_not, Int.not_lt] at hearly
  obtain ⟨halloc, hinit, hnumber⟩ := hearly
  rw [deleteAllSms, if_neg halloc, if_neg (by simp [hinit, errorHandler]),
    if_neg (Int.not_lt.mpr hnumber)]
  cases loop (deleteBody env foldernum) fuel
      (env.getSmsFolders.1, Walk.initial) with
  | none =>
      rfl
  | some w =>
      by_cases hterminate : env.terminateConnection = .none
      · simp [errorHandler, hterminate]
      · simp [errorHandler, hterminate]

/-- More rounds than needed do not matter. -/
theorem deleteAllSms_mono
    {env : GsmEnv} {foldernum : Int} {r : DeleteRun} {fuel more : Nat}
    (hr : deleteAllSms env foldernum fuel = some r)
    (hle : fuel ≤ more) :
    deleteAllSms env foldernum more = some r := by
  by_cases hearly : EarlyFailure env foldernum
  · rw [deleteAllSms_of_earlyFailure hearly] at hr ⊢
    exact hr
  · rw [deleteAllSms_of_not_earlyFailure hearly, Option.map_eq_some_iff] at hr ⊢
    obtain ⟨w, hw, hcode⟩ := hr
    exact ⟨w, loop_mono hw hle, hcode⟩

/-- A call that fails early returns -1. -/
theorem deleteReturns_of_earlyFailure
    {env : GsmEnv} {foldernum : Int} {r : DeleteRun}
    (hearly : EarlyFailure env foldernum) :
    DeleteReturns env foldernum r ↔ r = { code := -1, walk := Walk.initial } := by
  simp only [DeleteReturns, deleteAllSms_of_earlyFailure hearly, exists_const,
    Option.some.injEq]
  exact eq_comm

/-- Any other call returns what the walk and the closing call leave. -/
theorem deleteReturns_of_not_earlyFailure
    {env : GsmEnv} {foldernum : Int} {r : DeleteRun}
    (hearly : ¬ EarlyFailure env foldernum) :
    DeleteReturns env foldernum r ↔
      Returns (deleteBody env foldernum)
        (env.getSmsFolders.1, Walk.initial) r.walk ∧
      r.code = errorHandler env.terminateConnection := by
  simp only [DeleteReturns, deleteAllSms_of_not_earlyFailure hearly,
    Option.map_eq_some_iff]
  constructor
  · rintro ⟨fuel, w, hw, rfl⟩
    exact ⟨⟨fuel, hw⟩, rfl⟩
  · rintro ⟨⟨fuel, hfuel⟩, hcode⟩
    exact ⟨fuel, r.walk, hfuel, by rw [← hcode]⟩

/-- The walk is not entered, or gets past its first message. -/
def Ends (env : GsmEnv) (foldernum : Int) : Prop :=
  EarlyFailure env foldernum ∨ env.getSmsFolders.1 ≠ .none ∨ ∃ m, FirstRead env m

/-- A call ends unless its first message stays corrupted. -/
theorem deleteReturns_iff
    (env : GsmEnv) (foldernum : Int) :
    (∃ r, DeleteReturns env foldernum r) ↔ Ends env foldernum := by
  unfold Ends
  by_cases hearly : EarlyFailure env foldernum
  · simp [hearly, deleteReturns_of_earlyFailure hearly]
  · simp only [hearly, false_or, deleteReturns_of_not_earlyFailure hearly]
    by_cases hlisted : env.getSmsFolders.1 = .none
    · rw [hlisted]
      simp only [ne_eq, not_true_eq_false, false_or]
      constructor
      · rintro ⟨r, hreturns, -⟩
        exact firstRead_of_returns hreturns
      · rintro ⟨m, hm⟩
        obtain ⟨final, hfinal⟩ := exists_returns_of_firstRead foldernum hm
        exact ⟨⟨errorHandler env.terminateConnection, final⟩, hfinal, rfl⟩
    · have hlast := returns_of_inr (deleteBody_error env foldernum Walk.initial hlisted)
      simp only [ne_eq, hlisted, not_false_eq_true, true_or, iff_true]
      exact ⟨⟨errorHandler env.terminateConnection, Walk.initial⟩, hlast, rfl⟩

/-- A call returns one result at most. -/
theorem DeleteReturns.unique
    {env : GsmEnv} {foldernum : Int} {r r' : DeleteRun}
    (hr : DeleteReturns env foldernum r)
    (hr' : DeleteReturns env foldernum r') :
    r = r' := by
  obtain ⟨fuel, hfuel⟩ := hr
  obtain ⟨fuel', hfuel'⟩ := hr'
  have h := deleteAllSms_mono hfuel (Nat.le_max_left fuel fuel')
  rw [deleteAllSms_mono hfuel' (Nat.le_max_right fuel fuel')] at h
  exact (Option.some.inj h).symm

/-- The call reports a failure. -/
def ReportsFailure (env : GsmEnv) (foldernum : Int) : Prop :=
  EarlyFailure env foldernum ∨ env.terminateConnection ≠ .none

/-- The walk gets past its first message and meets no error. -/
def CleanWalk (env : GsmEnv) (foldernum : Int) : Prop :=
  env.getSmsFolders.1 = .none ∧
    ∃ m, FirstRead env m ∧ WalkClean env foldernum env.store m 0

/-- When a result says the truth: it is a failure, or the walk was clean. -/
theorem returned_iff
    {env : GsmEnv} {foldernum : Int} {r : DeleteRun}
    (hr : DeleteReturns env foldernum r) :
    (r.code = 0 ↔ ¬ ReportsFailure env foldernum) ∧
      (¬ EarlyFailure env foldernum →
        (Emptied env foldernum r ↔ CleanWalk env foldernum)) := by
  by_cases hearly : EarlyFailure env foldernum
  · rw [deleteReturns_of_earlyFailure hearly] at hr
    simp [hr, ReportsFailure, hearly]
  · rw [deleteReturns_of_not_earlyFailure hearly] at hr
    obtain ⟨hreturns, hcode⟩ := hr
    refine ⟨?_, fun _ => ?_⟩
    · simp [hcode, errorHandler_eq_zero_iff, ReportsFailure, hearly]
    · constructor
      · rintro ⟨hlisted, hnoFailure, -⟩
        rw [hlisted] at hreturns
        obtain ⟨m, hm⟩ := firstRead_of_returns hreturns
        exact ⟨hlisted, m, hm, (walk_firstRead hm hreturns).1.mp hnoFailure⟩
      · rintro ⟨hlisted, m, hm, hclean⟩
        rw [hlisted] at hreturns
        obtain ⟨hiff, hdone⟩ := walk_firstRead hm hreturns
        exact ⟨hlisted, hiff.mpr hclean, hdone (hiff.mpr hclean)⟩

/--
The result can be trusted exactly if the call ends and either reports a failure
or has met no error.
-/
theorem deletionReported_iff
    (env : GsmEnv) (foldernum : Int) :
    DeletionReported env foldernum ↔
      Ends env foldernum ∧
        (ReportsFailure env foldernum ∨ CleanWalk env foldernum) := by
  rw [← deleteReturns_iff, DeletionReported]
  constructor
  · rintro ⟨r, hr, htrue⟩
    refine ⟨⟨r, hr⟩, ?_⟩
    obtain ⟨hcode, hemptied⟩ := returned_iff hr
    by_cases hfailure : ReportsFailure env foldernum
    · exact Or.inl hfailure
    · have hearly : ¬ EarlyFailure env foldernum := fun h => hfailure (Or.inl h)
      exact Or.inr ((hemptied hearly).mp (htrue (hcode.mpr hfailure)))
  · rintro ⟨⟨r, hr⟩, hwhen⟩
    obtain ⟨hcode, hemptied⟩ := returned_iff hr
    refine ⟨r, hr, ?_⟩
    intro hzero
    have hfailure := hcode.mp hzero
    have hearly : ¬ EarlyFailure env foldernum := fun h => hfailure (Or.inl h)
    rcases hwhen with h | h
    · exact absurd h hfailure
    · exact (hemptied hearly).mpr h

/-- The calls of `process_async_delete_all`, each with the phone as it finds it. -/
def deleteFolders
    (envs : Int → GsmEnv) (fuel : Nat) : List Int → Option RpcSrvResult
  | [] => some .success
  | foldernum :: rest =>
      match deleteAllSms (envs foldernum) foldernum fuel with
      | none => none
      | some r => if r.code ≠ 0 then some .fail else deleteFolders envs fuel rest

/-- `process_async_delete_all`. -/
def processAsyncDeleteAll
    (emulation : Bool) (envs : Int → GsmEnv) (fuel : Nat) : Option RpcSrvResult :=
  if emulation then some .success else deleteFolders envs fuel [1, 2, 3, 4]

/-- The call for this folder ends and empties it. -/
def FolderEmptied (envs : Int → GsmEnv) (foldernum : Int) : Prop :=
  ∃ r, DeleteReturns (envs foldernum) foldernum r ∧
    Emptied (envs foldernum) foldernum r

/-- The task ends, and is a success only if every folder has been emptied. -/
def AsyncReported (emulation : Bool) (envs : Int → GsmEnv) : Prop :=
  ∃ fuel result, processAsyncDeleteAll emulation envs fuel = some result ∧
    (result = .success → emulation = true ∨
      ∀ foldernum ∈ [1, 2, 3, 4], FolderEmptied envs foldernum)

/-- Each call ends, up to one that reports a failure or clean to the last. -/
def AsyncTrusted (envs : Int → GsmEnv) (clean : Prop) : List Int → Prop
  | [] => clean
  | foldernum :: rest =>
      Ends (envs foldernum) foldernum ∧
        (ReportsFailure (envs foldernum) foldernum ∨
          AsyncTrusted envs (clean ∧ CleanWalk (envs foldernum) foldernum) rest)

/-- What follows the first call that returns. -/
theorem deleteFolders_cons
    {envs : Int → GsmEnv} {fuel : Nat} {foldernum : Int} {r : DeleteRun}
    (hr : deleteAllSms (envs foldernum) foldernum fuel = some r)
    (rest : List Int) :
    deleteFolders envs fuel (foldernum :: rest) =
      if r.code ≠ 0 then some .fail else deleteFolders envs fuel rest := by
  rw [deleteFolders, hr]

/-- More rounds than needed do not matter to the task either. -/
theorem deleteFolders_mono
    {envs : Int → GsmEnv} {fuel more : Nat} {folders : List Int} {result : RpcSrvResult}
    (hresult : deleteFolders envs fuel folders = some result)
    (hle : fuel ≤ more) :
    deleteFolders envs more folders = some result := by
  induction folders with
  | nil =>
      exact hresult
  | cons foldernum rest ih =>
      cases hr : deleteAllSms (envs foldernum) foldernum fuel with
      | none =>
          rw [deleteFolders, hr] at hresult
          cases hresult
      | some r =>
          rw [deleteFolders_cons hr] at hresult
          rw [deleteFolders_cons (deleteAllSms_mono hr hle)]
          by_cases hcode : r.code ≠ 0
          · rwa [if_pos hcode] at hresult ⊢
          · rw [if_neg hcode] at hresult ⊢
            exact ih hresult

/-- When the calls for a list of folders can be trusted. -/
theorem deleteFolders_iff
    (envs : Int → GsmEnv) (folders : List Int) (clean : Prop) :
    (∃ fuel result, deleteFolders envs fuel folders = some result ∧
      (result = .success → clean ∧
        ∀ foldernum ∈ folders, FolderEmptied envs foldernum)) ↔
      AsyncTrusted envs clean folders := by
  induction folders generalizing clean with
  | nil =>
      simp [deleteFolders, AsyncTrusted]
  | cons foldernum rest ih =>
      rw [AsyncTrusted, ← ih, ← deleteReturns_iff]
      constructor
      · rintro ⟨fuel, result, hresult, htrue⟩
        cases hr : deleteAllSms (envs foldernum) foldernum fuel with
        | none =>
            rw [deleteFolders, hr] at hresult
            cases hresult
        | some r =>
            have hreturns : DeleteReturns (envs foldernum) foldernum r := ⟨fuel, hr⟩
            refine ⟨⟨r, hreturns⟩, ?_⟩
            obtain ⟨hcode, hemptied⟩ := returned_iff hreturns
            by_cases hfailure : ReportsFailure (envs foldernum) foldernum
            · exact Or.inl hfailure
            · have hearly : ¬ EarlyFailure (envs foldernum) foldernum :=
                fun h => hfailure (Or.inl h)
              rw [deleteFolders_cons hr, if_neg (not_not.mpr (hcode.mpr hfailure))] at hresult
              refine Or.inr ⟨fuel, result, hresult, ?_⟩
              intro hsuccess
              obtain ⟨hclean, hall⟩ := htrue hsuccess
              obtain ⟨r', hreturns', hempty⟩ := hall foldernum List.mem_cons_self
              rw [hreturns'.unique hreturns] at hempty
              exact ⟨⟨hclean, (hemptied hearly).mp hempty⟩,
                fun f hf => hall f (List.mem_cons_of_mem foldernum hf)⟩
      · rintro ⟨⟨r, hreturns⟩, hwhen⟩
        obtain ⟨hcode, hemptied⟩ := returned_iff hreturns
        obtain ⟨fuel, hr⟩ := hreturns
        by_cases hfailure : ReportsFailure (envs foldernum) foldernum
        · refine ⟨fuel, .fail, ?_, fun h => by cases h⟩
          have hnonzero : r.code ≠ 0 := fun h => hcode.mp h hfailure
          rw [deleteFolders_cons hr, if_pos hnonzero]
        · have hearly : ¬ EarlyFailure (envs foldernum) foldernum :=
            fun h => hfailure (Or.inl h)
          obtain ⟨fuel', result, hresult, htrue⟩ := hwhen.resolve_left hfailure
          have hzero : ¬ r.code ≠ 0 := not_not.mpr (hcode.mpr hfailure)
          refine ⟨max fuel fuel', result, ?_, ?_⟩
          · rw [deleteFolders_cons (deleteAllSms_mono hr (Nat.le_max_left fuel fuel')),
              if_neg hzero]
            exact deleteFolders_mono hresult (Nat.le_max_right fuel fuel')
          · intro hsuccess
            obtain ⟨⟨hclean, hwalk⟩, hrest⟩ := htrue hsuccess
            refine ⟨hclean, ?_⟩
            intro f hf
            rcases List.mem_cons.mp hf with rfl | hf
            · exact ⟨r, ⟨fuel, hr⟩, (hemptied hearly).mpr hwalk⟩
            · exact hrest f hf

/-- When the task can be trusted. -/
theorem asyncReported_iff
    (emulation : Bool) (envs : Int → GsmEnv) :
    AsyncReported emulation envs ↔
      emulation = true ∨ AsyncTrusted envs True [1, 2, 3, 4] := by
  rw [← deleteFolders_iff, AsyncReported]
  cases emulation with
  | true =>
      simp [processAsyncDeleteAll]
  | false =>
      simp only [processAsyncDeleteAll, Bool.false_eq_true, if_false, false_or, true_and]

end Bboxsms
end BrBox
