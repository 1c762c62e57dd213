import Deprecation.Event
import Deprecation.Sink

/-!
The journal of what the library does: warnings that are delivered, events that are logged, and
hooks of enumeration members that fire, in the order in which they happen.
-/

namespace Deprecation

/-- Something that happened. -/
inductive Entry where
  | delivered (delivery : Delivery)
  | logged (event : Event)
  | hookFired (enumeration member : String)
deriving DecidableEq, Repr

/-- What a delivery leaves in the journal: itself, and the event if it goes to the log. -/
def Delivery.entries (delivery : Delivery) : List Entry :=
  .delivered delivery ::
    match delivery.sink with
    | .log withLocation => [.logged (.warned delivery.warning withLocation)]
    | _ => []

/-- The events of a delivery: only a sink that writes to the log makes one. -/
def Delivery.events (delivery : Delivery) : List Event :=
  match delivery.sink with
  | .log withLocation => [.warned delivery.warning withLocation]
  | _ => []

/-- The warnings among deliveries that go to a buffer, in order. -/
def Delivery.warningsTo (buffer : Address Buffer) (deliveries : List Delivery) : List Warning :=
  deliveries.filterMap fun delivery =>
    if delivery.sink = .capture buffer then some delivery.warning else none

@[simp] theorem Delivery.warningsTo_nil (buffer : Address Buffer) : warningsTo buffer [] = [] := rfl

@[simp] theorem Delivery.warningsTo_singleton (buffer : Address Buffer) (delivery : Delivery) :
    warningsTo buffer [delivery] =
      if delivery.sink = .capture buffer then [delivery.warning] else [] := by
  by_cases h : delivery.sink = .capture buffer <;> simp [warningsTo, h]

@[simp] theorem Delivery.warningsTo_append (buffer : Address Buffer)
    (first second : List Delivery) :
    warningsTo buffer (first ++ second) = warningsTo buffer first ++ warningsTo buffer second :=
  List.filterMap_append

theorem Delivery.warningsTo_of_forall {buffer : Address Buffer} {deliveries : List Delivery}
    (h : ∀ delivery ∈ deliveries, delivery.sink = .capture buffer) :
    warningsTo buffer deliveries = deliveries.map warning := by
  induction deliveries with
  | nil => rfl
  | cons delivery rest ih =>
      rw [List.forall_mem_cons] at h
      rw [warningsTo, List.filterMap_cons, if_pos h.1, List.map_cons, ← ih h.2, warningsTo]

/-- The warnings among deliveries that are made on behalf of a source, in order. -/
def Delivery.warningsOf (source : Source) (deliveries : List Delivery) : List Warning :=
  deliveries.filterMap fun delivery =>
    if delivery.source = source then some delivery.warning else none

theorem Delivery.warningsOf_append (source : Source) (first second : List Delivery) :
    warningsOf source (first ++ second) = warningsOf source first ++ warningsOf source second :=
  List.filterMap_append

theorem Delivery.warningsOf_eq_nil {source : Source} {deliveries : List Delivery}
    (h : ∀ delivery ∈ deliveries, delivery.source ≠ source) : warningsOf source deliveries = [] :=
  List.filterMap_eq_nil_iff.mpr fun delivery hdelivery => if_neg (h delivery hdelivery)

/-- What happened, in order. -/
abbrev Journal := List Entry

namespace Journal

def deliveries (journal : Journal) : List Delivery :=
  journal.filterMap fun entry =>
    match entry with
    | .delivered delivery => some delivery
    | _ => none

/-- The warnings that were delivered on behalf of a source, in order. -/
def warningsOf (source : Source) (journal : Journal) : List Warning :=
  Delivery.warningsOf source journal.deliveries

def events (journal : Journal) : List Event :=
  journal.filterMap fun entry =>
    match entry with
    | .logged event => some event
    | _ => none

/-- The hooks that fired, each with its enumeration and member. -/
def hooks (journal : Journal) : List (String × String) :=
  journal.filterMap fun entry =>
    match entry with
    | .hookFired enumeration member => some (enumeration, member)
    | _ => none

@[simp] theorem deliveries_nil : deliveries [] = [] := rfl

@[simp] theorem events_nil : events [] = [] := rfl

@[simp] theorem deliveries_append (first second : Journal) :
    deliveries (first ++ second) = first.deliveries ++ second.deliveries :=
  List.filterMap_append

@[simp] theorem deliveries_cons_logged (event : Event) (rest : Journal) :
    deliveries (.logged event :: rest) = rest.deliveries := rfl

@[simp] theorem deliveries_logged (event : Event) : deliveries [.logged event] = [] := rfl

@[simp] theorem deliveries_hookFired (enumeration member : String) :
    deliveries [.hookFired enumeration member] = [] := rfl

@[simp] theorem deliveries_entries (delivery : Delivery) :
    deliveries delivery.entries = [delivery] := by
  obtain ⟨source, sink, warning⟩ := delivery
  cases sink <;> rfl

@[simp] theorem events_append (first second : Journal) :
    events (first ++ second) = first.events ++ second.events :=
  List.filterMap_append

@[simp] theorem events_cons_logged (event : Event) (rest : Journal) :
    events (.logged event :: rest) = event :: rest.events := rfl

@[simp] theorem events_entries (delivery : Delivery) :
    events delivery.entries = delivery.events := by
  obtain ⟨source, sink, warning⟩ := delivery
  cases sink <;> rfl

@[simp] theorem hooks_append (first second : Journal) :
    hooks (first ++ second) = first.hooks ++ second.hooks :=
  List.filterMap_append

@[simp] theorem hooks_entries (delivery : Delivery) : hooks delivery.entries = [] := by
  obtain ⟨source, sink, warning⟩ := delivery
  cases sink <;> rfl

end Journal

end Deprecation
