import LobstrMcp.Interaction.Triple
import LobstrMcp.Model.LobstrClient
import Mathlib.Logic.Function.Basic

/-!
What the server relies on of the API behind it: the squids it holds, what each write does to
them, and how a request can go. A write is answered and has its effect, is rejected without one,
or its answer is lost, with or without the effect; one that was never sent has none. A read
answers what is held, or fails.
-/

namespace LobstrMcp
open Interaction

/-- A squid upstream: the record it is read as, and the params of each of its task rows. -/
structure Squid where
  record : Fields
  rows : List Json

/-- The squids the API holds, by id, and the writes that took effect so far, latest first. -/
structure Upstream where
  squids : Json → Option Squid
  applied : List Call := []

/-- Adding one row: an exact duplicate is dropped. -/
def addRow (rows : List Json) (row : Json) : List Json := if row ∈ rows then rows else rows ++ [row]

def addRows (rows new : List Json) : List Json := new.foldl addRow rows

theorem mem_addRows (rows new : List Json) (row : Json) :
    row ∈ addRows rows new ↔ row ∈ rows ∨ row ∈ new := by
  induction new generalizing rows with
  | nil => simp [addRows]
  | cons first rest ih =>
    have unfolded : addRows rows (first :: rest) = addRows (addRow rows first) rest := rfl
    rw [unfolded, ih, addRow]
    split
    · rename_i held
      simp only [List.mem_cons]
      refine ⟨fun h => h.imp_right .inr, ?_⟩
      rintro (h | rfl | h)
      · exact .inl h
      · exact .inl held
      · exact .inr h
    · simp only [List.mem_append, List.mem_cons, List.not_mem_nil, or_false, or_assoc]

namespace Upstream

/-- Change a squid, if there is one of that id. -/
def edit (u : Upstream) (squid : Json) (change : Squid → Squid) : Json → Option Squid :=
  Function.update u.squids squid ((u.squids squid).map change)

@[simp] theorem edit_same (u : Upstream) (squid : Json) (change : Squid → Squid) :
    u.edit squid change squid = (u.squids squid).map change := by
  simp [edit]

theorem edit_other (u : Upstream) {squid other : Json} (change : Squid → Squid)
    (different : other ≠ squid) : u.edit squid change other = u.squids other := by
  simp [edit, different]

/-- A write takes effect; `made` is the record of the squid a creation makes. -/
def effect (u : Upstream) (c : Call) (made : Fields) : Upstream where
  squids := match c with
    | .createSquid _ _ => Function.update u.squids (Fields.get made "id") (some ⟨made, []⟩)
    | .updateSquid squid settings =>
      u.edit squid fun q => { q with record := Dict.update q.record settings }
    | .deleteSquid squid => Function.update u.squids squid none
    | .emptySquid squid => u.edit squid fun q => { q with rows := [] }
    | .addTasks squid tasks => u.edit squid fun q => { q with rows := addRows q.rows tasks }
    | .setSquidActive squid active =>
      u.edit squid fun q => { q with record := Dict.set q.record "is_active" (.bool active) }
    | _ => u.squids
  applied := c :: u.applied

/-- A created squid gets an id that was free. -/
def Fresh (u : Upstream) (c : Call) (made : Fields) : Prop :=
  match c with
  | .createSquid _ _ => u.squids (Fields.get made "id") = none
  | _ => True

def Takes (u : Upstream) (c : Call) (made : Fields) (t : Upstream) : Prop :=
  u.Fresh c made ∧ t = u.effect c made

/-- The record a creation answers with. -/
def madeBy (c : Call) (payload : c.Resp) : Fields :=
  match c, payload with
  | .createSquid _ _, record => record
  | _, _ => []

/-- How a write can go. -/
def Writes (u : Upstream) (c : Call) (ans : Answer c) (t : Upstream) : Prop :=
  match ans with
  | .ok payload => u.Takes c (madeBy c payload) t
  | .error (.api _) => t = u
  | .error (.transport lost) => t = u ∨ (lost.kind.neverSent = false ∧ ∃ made, u.Takes c made t)
  | .error _ => False

/-- What a read may answer; `reports` says which listings there can be of a squid's rows. -/
def Reads (reports : List Json → Json → Prop) (u : Upstream) (c : Call) (ans : Answer c) : Prop :=
  match c, ans with
  | .getSquid id, .ok record =>
    ∃ squid, u.squids id = some squid ∧ record = squid.record ∧ Dict.get? record "id" = some id
  | .listTasks id, .ok payload => ∃ squid, u.squids id = some squid ∧ reports squid.rows payload
  | _, _ => True

/-- The API, as the tools meet it. -/
def world (reports : List Json → Json → Prop) : World Call Answer Upstream := fun u c ans t =>
  if c.writes then u.Writes c ans t else t = u ∧ u.Reads reports c ans

/-- A listing of every row: one task each, in order, with the row as its params. -/
def listsAll (rows : List Json) (payload : Json) : Prop :=
  ∃ tasks, payload = .arr tasks ∧
    List.Forall₂ (fun task row => ∃ fields, task = .obj fields ∧ Fields.get fields "params" = row)
      tasks rows

/-- Any listing at all. -/
def listsAny (_ : List Json) (_ : Json) : Prop := True

section World
variable {reports : List Json → Json → Prop} {u t : Upstream}

theorem world_write {c : Call} {ans : Answer c} (writes : c.writes = true) :
    world reports u c ans t ↔ u.Writes c ans t := by
  simp [world, writes]

theorem world_read {c : Call} {ans : Answer c} (reads : c.writes = false) :
    world reports u c ans t ↔ t = u ∧ u.Reads reports c ans := by
  simp [world, reads]

theorem world_keeps {c : Call} {ans : Answer c} (reads : c.writes = false)
    (step : world reports u c ans t) : t = u :=
  ((world_read reads).mp step).1

/-- A write that went wrong went wrong upstream or on the way. -/
theorem world_error {c : Call} {e : Exc} (writes : c.writes = true)
    (step : world reports u c (.error e) t) :
    (∃ rejection, e = .api rejection ∧ t = u) ∨
      ∃ lost, e = .transport lost ∧
        (t = u ∨ (lost.kind.neverSent = false ∧ ∃ made, u.Takes c made t)) := by
  rw [world_write writes] at step
  cases e with
  | api rejection => exact .inl ⟨rejection, rfl, step⟩
  | transport lost => exact .inr ⟨lost, rfl, step⟩
  | store text => exact step.elim
  | keyError key => exact step.elim
  | typeError => exact step.elim
  | attributeError => exact step.elim
  | zeroDivisionError => exact step.elim

end World
end Upstream
end LobstrMcp
