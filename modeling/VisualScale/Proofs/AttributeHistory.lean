import Mathlib.Data.List.Induction
import VisualScale.Formula.Names
import VisualScale.Proofs.Declaration
import VisualScale.Proofs.Table

/-!
# The attributes of a custom scale after a history of calls

Whether a call that declares an attribute succeeds depends on the call alone (`Declaration.fault?`).
Of the calls that succeed (`kept`), the place of a name, its value and its type are retained by
three different rules: the first call for the name fixes the place, the last one the value
(`lastValue?`), and the last one that names a type the type (`lastType`).

* `find?_attributesAfterAll`, `names_attributesAfterAll` -- the three rules, by induction on the
  history from its end;
* `Scale.attributes_of_history` -- what a custom scale lists, answers and warns of after any
  history.
-/

namespace VisualScale

/-! ## 1. Names without repetition, and tables without repeated names -/

/-- One more element goes to the end, unless it came before. -/
theorem distinct_concat {α : Type} [DecidableEq α] (l : List α) (a : α) :
    distinct (l ++ [a]) = if a ∈ l then distinct l else distinct l ++ [a] := by
  induction l with
  | nil => simp [distinct]
  | cons b rest ih =>
    rw [List.cons_append, distinct, distinct, ih]
    by_cases hab : a = b
    · subst hab
      by_cases hmem : a ∈ rest <;> simp [hmem]
    · by_cases hmem : a ∈ rest <;> simp [hab, hmem]

/-- Where no name is repeated, every entry is found. -/
theorem Table.find?_of_mem {α : Type} {t : Table α} (hnodup : t.names.Nodup) {name : String} {a : α}
    (h : (name, a) ∈ t) : t.find? name = some a := by
  induction t with
  | nil => cases h
  | cons entry rest ih =>
    obtain ⟨n, b⟩ := entry
    obtain ⟨hn, hrest⟩ := List.nodup_cons.1 hnodup
    rcases List.mem_cons.1 h with heq | hmem
    · obtain ⟨rfl, rfl⟩ := Prod.mk.inj heq
      simp [find?]
    · have hmem' : name ∈ rest.map Prod.fst := List.mem_map.2 ⟨_, hmem, rfl⟩
      have hne : n ≠ name := fun heq => hn (heq ▸ hmem')
      simpa [find?, hne] using ih hrest hmem

/-! ## 2. Calls that succeed -/

namespace Declaration

/-- Why a call fails, if it does: its name is that of the input or no identifier, or no type has the
    name that it gives. -/
def fault? (d : Declaration) : Option Fault :=
  if d.name = Scale.inputName then some (.nameReserved d.name)
  else if Text.isIdentifier d.name.toList = false then some (.nameNotIdentifier d.name)
  else match d.typeName with
    | some typeName => if ValueType.ofName? typeName = none then some (.unknownType typeName) else none
    | none => none

/-- The type that a call names. -/
def namedType? (d : Declaration) : Option ValueType := d.typeName.bind ValueType.ofName?

theorem name_ne_of_fault? {d : Declaration} (h : d.fault? = none) : d.name ≠ Scale.inputName := by
  intro hname
  simp [fault?, hname] at h

end Declaration

/-- The calls that succeed, in order. -/
def kept (ds : List Declaration) : List Declaration := ds.filter fun d => d.fault?.isNone

/-- The value of the last call for a name. -/
def lastValue? (ds : List Declaration) (name : String) : Option Value :=
  ((ds.filter fun d => d.name = name).getLast?).map Declaration.value

/-- The type given by the last call for a name that names one; float if none does. -/
def lastType (ds : List Declaration) (name : String) : ValueType :=
  ((ds.filter fun d => d.name = name).filterMap Declaration.namedType?).getLast?.getD .float

theorem kept_concat (ds : List Declaration) (d : Declaration) :
    kept (ds ++ [d]) = if d.fault? = none then kept ds ++ [d] else kept ds := by
  by_cases h : d.fault? = none <;> simp [kept, h, Option.isNone_iff_eq_none]

theorem lastValue?_concat (ds : List Declaration) (d : Declaration) (name : String) :
    lastValue? (ds ++ [d]) name = if d.name = name then some d.value else lastValue? ds name := by
  by_cases h : d.name = name <;> simp [lastValue?, h]

theorem lastType_concat (ds : List Declaration) (d : Declaration) (name : String) :
    lastType (ds ++ [d]) name =
      if d.name = name then d.namedType?.getD (lastType ds name) else lastType ds name := by
  by_cases h : d.name = name
  · cases ht : d.namedType? <;> simp [lastType, h, ht]
  · simp [lastType, h]

/-- A name has a last value if and only if there is a call for it. -/
theorem lastValue?_eq_none_iff {ds : List Declaration} {name : String} :
    lastValue? ds name = none ↔ ∀ d ∈ ds, d.name ≠ name := by
  simp [lastValue?]

/-- Without a call for it, a name has the type of new attributes. -/
theorem lastType_of_no_call {ds : List Declaration} {name : String}
    (h : lastValue? ds name = none) : lastType ds name = .float := by
  have hfilter : ds.filter (fun d => d.name = name) = [] := by
    simpa [lastValue?] using h
  simp [lastType, hfilter]

/-! ## 3. The table -/

/-- What a call does to a table whose entries under its name are known. -/
theorem declare_eq (attributes : Table CustomAttribute) (d : Declaration) :
    Scale.declare attributes d.name d.value d.typeName = match d.fault? with
      | some fault => .error fault
      | none => .ok (attributes.set d.name ⟨d.namedType?.getD
          (((attributes.find? d.name).map CustomAttribute.valueType).getD .float), d.value⟩) := by
  obtain ⟨name, value, typeName⟩ := d
  unfold Scale.declare Declaration.fault? Declaration.namedType? Scale.declaredType ValueType.parse
  dsimp only
  split
  · rfl
  cases hidentifier : Text.isIdentifier name.toList with
  | false => rfl
  | true =>
    cases typeName with
    | none => rfl
    | some typeName => cases ht : ValueType.ofName? typeName <;> simp [ht] <;> rfl

theorem attributesAfterAll_concat (attributes : Table CustomAttribute) (ds : List Declaration)
    (d : Declaration) : attributesAfterAll attributes (ds ++ [d]) =
      attributesAfter (attributesAfterAll attributes ds) d := by
  simp [attributesAfterAll]

/-- A call that fails leaves the table. -/
theorem attributesAfter_of_fault {attributes : Table CustomAttribute} {d : Declaration}
    {fault : Fault} (h : d.fault? = some fault) : attributesAfter attributes d = attributes := by
  unfold attributesAfter
  rw [declare_eq, h]

/-- **The value of an attribute is that of the last call for it, and its type is the last one that a
    call has named.** -/
theorem find?_attributesAfterAll (ds : List Declaration) (name : String) :
    (attributesAfterAll [] ds).find? name =
      (lastValue? (kept ds) name).map fun value => ⟨lastType (kept ds) name, value⟩ := by
  induction ds using List.reverseRecOn with
  | nil => rfl
  | append_singleton ds d ih =>
    rw [attributesAfterAll_concat, kept_concat]
    cases hfault : d.fault? with
    | some fault => rw [attributesAfter_of_fault hfault, if_neg (by simp), ih]
    | none =>
      have hafter : (attributesAfter (attributesAfterAll [] ds) d).find? name =
          if name = d.name then some ⟨d.namedType?.getD (lastType (kept ds) name), d.value⟩
          else (attributesAfterAll [] ds).find? name := by
        unfold attributesAfter
        rw [declare_eq, hfault]
        dsimp only
        rw [Table.find?_set]
        by_cases hname : name = d.name
        · rw [if_pos hname, if_pos hname, ← hname, ih]
          cases hlast : lastValue? (kept ds) name with
          | some value => rfl
          | none => rw [lastType_of_no_call hlast]; rfl
        · rw [if_neg hname, if_neg hname]
      rw [hafter, if_pos rfl, lastValue?_concat, lastType_concat, ih]
      by_cases hname : name = d.name
      · simp [hname]
      · simp [hname, Ne.symm hname]

/-- **The place of an attribute is that of the first call for it.** -/
theorem names_attributesAfterAll (ds : List Declaration) :
    (attributesAfterAll [] ds).names = distinct ((kept ds).map Declaration.name) := by
  induction ds using List.reverseRecOn with
  | nil => rfl
  | append_singleton ds d ih =>
    rw [attributesAfterAll_concat, kept_concat]
    cases hfault : d.fault? with
    | some fault => rw [attributesAfter_of_fault hfault, if_neg (by simp), ih]
    | none =>
      have hafter : (attributesAfter (attributesAfterAll [] ds) d).names =
          if d.name ∈ (attributesAfterAll [] ds).names then (attributesAfterAll [] ds).names
          else (attributesAfterAll [] ds).names ++ [d.name] := by
        unfold attributesAfter
        rw [declare_eq, hfault]
        exact Table.names_set _ _ _
      rw [hafter, if_pos rfl, List.map_append, List.map_singleton, distinct_concat, ih]
      simp only [mem_distinct]

theorem nodup_names_attributesAfterAll (ds : List Declaration) :
    (attributesAfterAll [] ds).names.Nodup := by
  rw [names_attributesAfterAll]
  exact nodup_distinct _

/-! ## 4. Warnings -/

/-- The warnings of a call after a history: one if the call names a type and the attribute is there
    with another one. -/
def warningsOf (source : String) (ds : List Declaration) (d : Declaration) : List String :=
  match lastValue? (kept ds) d.name, d.namedType? with
  | some _, some named =>
    if lastType (kept ds) d.name = named then []
    else [Scale.changeWarning source d.name (lastType (kept ds) d.name) named]
  | _, _ => []

/-! ## 5. The scale -/

namespace Scale

/-- The call after a history of calls. -/
theorem setAttribute_afterAll (p : ParsedFormula) (ds : List Declaration) (d : Declaration) :
    ((custom p []).afterAll ds).setAttribute d.name d.value d.typeName = match d.fault? with
      | some fault => .error fault
      | none => .ok ((custom p []).afterAll (ds ++ [d]), warningsOf p.source ds d) := by
  rw [afterAll_custom, afterAll_custom, attributesAfterAll_concat]
  unfold setAttribute attributesAfter
  dsimp only
  rw [declare_eq]
  cases hfault : d.fault? with
  | some fault => rfl
  | none =>
    -- the history leaves the type before the call, and the call makes of it the type after
    have hbefore := find?_attributesAfterAll ds d.name
    show Except.ok (_, _) = _
    refine congrArg (fun ws => Except.ok (_, ws)) ?_
    unfold typeChange warningsOf
    rw [Table.find?_set, if_pos rfl, hbefore]
    cases hlast : lastValue? (kept ds) d.name with
    | none => rfl
    | some value =>
      cases hnamed : d.namedType? with
      | none => simp
      | some named => by_cases hsame : lastType (kept ds) d.name = named <;> simp [hsame]

/-- What a scale answers for a name after a history of calls. -/
theorem attributeValue_afterAll (p : ParsedFormula) (ds : List Declaration) (name : String) :
    ((custom p []).afterAll ds).attributeValue name =
      (lastValue? (kept ds) name).elim (.error (.attributeUnknown name)) .ok := by
  rw [afterAll_custom]
  unfold attributeValue
  dsimp only
  rw [find?_attributesAfterAll]
  cases lastValue? (kept ds) name <;> rfl

theorem names_attributes_afterAll (p : ParsedFormula) (ds : List Declaration) :
    ((custom p []).afterAll ds).attributes.map Attribute.name =
      distinct ((kept ds).map Declaration.name) := by
  rw [afterAll_custom, ← names_attributesAfterAll]
  simp [Scale.attributes, Table.names]

/-- What is listed of a name is what the history left. -/
theorem lastValue?_of_mem_attributes {p : ParsedFormula} {ds : List Declaration} {a : Attribute}
    (ha : a ∈ ((custom p []).afterAll ds).attributes) :
    lastValue? (kept ds) a.name = some a.value ∧ a.valueType = lastType (kept ds) a.name ∧
      a.acceptsNumeric = false := by
  rw [afterAll_custom] at ha
  obtain ⟨⟨name, entry⟩, hentry, rfl⟩ := List.mem_map.1 ha
  have hfound := Table.find?_of_mem (nodup_names_attributesAfterAll ds) hentry
  rw [find?_attributesAfterAll] at hfound
  obtain ⟨value, hlast, rfl⟩ := Option.map_eq_some_iff.1 hfound
  exact ⟨hlast, rfl, rfl⟩

theorem inputName_notMem_kept (ds : List Declaration) :
    inputName ∉ (kept ds).map Declaration.name := by
  intro hmem
  obtain ⟨d, hd, hname⟩ := List.mem_map.1 hmem
  have hfault : d.fault? = none := by simpa using (List.mem_filter.1 hd).2
  exact Declaration.name_ne_of_fault? hfault hname

/-- A call that fails leaves the scale; another one makes of it what the longer history does. -/
theorem after_afterAll (p : ParsedFormula) (ds : List Declaration) (d : Declaration) :
    ((custom p []).afterAll ds).after d =
      if d.fault? = none then (custom p []).afterAll (ds ++ [d])
      else (custom p []).afterAll ds := by
  have hcall := setAttribute_afterAll p ds d
  unfold after
  rw [hcall]
  cases d.fault? <;> rfl

/-- A type that changes twice, with a call that fails and one that names no type between. -/
example : warningsOf "a" [⟨"a", .unbound, none⟩, ⟨"value", .unbound, some "int"⟩,
      ⟨"a", .unbound, some "int"⟩, ⟨"a", .unbound, none⟩] ⟨"a", .unbound, some "Color"⟩ =
    [Scale.changeWarning "a" "a" .int .color] := by decide

end Scale

end VisualScale
