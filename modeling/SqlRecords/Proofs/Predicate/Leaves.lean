import SqlRecords.Proofs.Predicate.SearchCondition

/-!
# The walk over the leaves of a predicate

A predicate is drafted by a walk over its tree that binds a value at each leaf and stops at the first
leaf that it cannot draft.  What was bound before stays bound, so the parameters after a failure tell how
far the walk came.  The groups of the tree only say where the leaves are: for what is bound and for
whether the walk comes through, the row of the leaves is enough.

* `Predicate.leaves` — the leaves, from left to right.
* `Condition.Valid` — what is asked of a leaf, and `Condition.Refused`, what is said of one that fails.
* `Draft.Ending` — the two ways in which a walk over some leaves ends; `Draft.Walks.bind` puts two walks
  one after the other.
* **`Predicate.draft_walk`** — which predicates are drafted, and what the parameters are in either case.
-/

namespace SqlRecords

/-! ## Leaves -/

namespace Condition

/-- The table has the property, and null is compared with for equality only. -/
structure Valid (t : Table) (c : Condition) : Prop where
  named : ∃ column ∈ t.columns, Text.sameName column.property c.property
  comparable : c.value = .null → c.operator = .eq

/-- Why a leaf cannot be drafted.  Its property is looked up first. -/
inductive Refused (t : Table) (c : Condition) : Error → Prop
  | unknown (h : ∀ column ∈ t.columns, ¬ Text.sameName column.property c.property) :
      Refused t c (.unknownProperty t.entity c.property)
  | incomparable (h : ∃ column ∈ t.columns, Text.sameName column.property c.property)
      (hnull : c.value = .null) (hop : c.operator ≠ .eq) :
      Refused t c (.nullComparison c.operator c.property)

variable {t : Table} {c : Condition} {e : Error}

theorem Refused.not_valid (h : c.Refused t e) : ¬ c.Valid t := by
  rintro ⟨⟨column, hcolumn, hname⟩, hcomparable⟩
  cases h with
  | unknown h => exact h column hcolumn hname
  | incomparable _ hnull hop => exact hop (hcomparable hnull)

theorem Refused.kind_eq (h : c.Refused t e) : e.kind = .configuration := by
  cases h <;> rfl

end Condition

namespace Predicate

mutual

/-- The leaves of a predicate, from left to right. -/
def leaves : Predicate → List Condition
  | field c => [c]
  | group _ children => leavesOfAll children

/-- The leaves of several predicates. -/
def leavesOfAll : List Predicate → List Condition
  | [] => []
  | p :: ps => leaves p ++ leavesOfAll ps

end

end Predicate

/-- The values of some leaves that are not null. -/
def Condition.valuesOf (leaves : List Condition) : List Value :=
  (leaves.map (·.value)).filter fun v => !v.isNull

/-! ## Walks -/

namespace Draft

variable {α β : Type} {t : Table}

/-- How a walk over some leaves ends that starts from the parameters `ps`. -/
inductive Ending (t : Table) (ps : Parameters) : List Condition → Except Error α × Parameters → Prop
  /-- Every leaf was drafted. -/
  | through {leaves : List Condition} (a : α) (hvalid : ∀ c ∈ leaves, c.Valid t) :
      Ending t ps leaves (.ok a, ps.pushAll (Condition.valuesOf leaves))
  /-- The leaf `c` was refused, after those before it were drafted. -/
  | stopped {before after : List Condition} {c : Condition} {e : Error}
      (hvalid : ∀ b ∈ before, b.Valid t) (hrefused : c.Refused t e) :
      Ending t ps (before ++ c :: after) (.error e, ps.pushAll (Condition.valuesOf before))

/-- The draft is a walk over the leaves. -/
def Walks (t : Table) (leaves : List Condition) (d : Draft α) : Prop :=
  ∀ ps : Parameters, Ending t ps leaves (d.run ps)

theorem walks_pure (a : α) : Walks t [] (pure a) :=
  fun _ => .through a (by simp)

/-- A walk that goes on after another one. -/
theorem Ending.append {ps : Parameters} {xs ys : List Condition} {r : Except Error β × Parameters}
    (hvalid : ∀ c ∈ xs, c.Valid t) (h : Ending t (ps.pushAll (Condition.valuesOf xs)) ys r) :
    Ending t ps (xs ++ ys) r := by
  have hpush : ∀ zs, (ps.pushAll (Condition.valuesOf xs)).pushAll (Condition.valuesOf zs)
      = ps.pushAll (Condition.valuesOf (xs ++ zs)) := fun zs => by
    rw [← Parameters.pushAll_append, Condition.valuesOf, Condition.valuesOf, Condition.valuesOf,
      List.map_append, List.filter_append]
  cases h with
  | through b hys =>
      rw [hpush]
      exact .through b (List.forall_mem_append.mpr ⟨hvalid, hys⟩)
  | @stopped before after c e hbefore hrefused =>
      rw [hpush, ← List.append_assoc]
      exact .stopped (List.forall_mem_append.mpr ⟨hvalid, hbefore⟩) hrefused

/-- **Walks one after the other are a walk over all their leaves.** -/
theorem Walks.bind {xs ys : List Condition} {d : Draft α} {f : α → Draft β} (h : Walks t xs d)
    (hf : ∀ a, Walks t ys (f a)) : Walks t (xs ++ ys) (d >>= f) := by
  intro ps
  have hfirst := h ps
  rw [run_bind]
  generalize d.run ps = r at hfirst
  cases hfirst with
  | through a hvalid => exact (hf a _).append hvalid
  | stopped hvalid hrefused =>
      rw [List.append_assoc]
      exact .stopped hvalid hrefused

theorem Walks.map {xs : List Condition} {d : Draft α} (h : Walks t xs d) (f : α → β) :
    Walks t xs (do let a ← d; return f a) := by
  have hmap := h.bind fun a => walks_pure (t := t) (f a)
  rwa [List.append_nil] at hmap

/-- A walk comes through exactly if every leaf is valid. -/
theorem Ending.isOk_iff {ps qs : Parameters} {leaves : List Condition} {r : Except Error α}
    (h : Ending t ps leaves (r, qs)) : (∃ a, r = .ok a) ↔ ∀ c ∈ leaves, c.Valid t := by
  cases h with
  | through a hvalid => exact ⟨fun _ => hvalid, fun _ => ⟨a, rfl⟩⟩
  | stopped _ hrefused =>
      refine ⟨fun ⟨_, h⟩ => absurd h nofun, fun hvalid => absurd (hvalid _ ?_) hrefused.not_valid⟩
      exact List.mem_append_right _ List.mem_cons_self

end Draft

/-! ## Predicates -/

theorem Table.column_eq_error {t : Table} {property : String}
    (h : ∀ column ∈ t.columns, ¬ Text.sameName column.property property) :
    t.column property = .error (.unknownProperty t.entity property) := by
  have hnone : t.column? property = none := by
    rw [column?, List.find?_eq_none]
    exact h
  rw [column, hnone]

/-- A property that has a column is found. -/
theorem Table.exists_column_eq_ok {t : Table} {property : String}
    (h : ∃ column ∈ t.columns, Text.sameName column.property property) :
    ∃ column, t.column property = .ok column := by
  obtain ⟨column, hfound⟩ := Option.isSome_iff_exists.mp (List.find?_isSome.mpr h)
  exact ⟨column, by rw [Table.column, column?]; exact hfound ▸ rfl⟩

namespace Condition

variable {t : Table} {c : Condition} {e : Error}

theorem valid_or_refused (t : Table) (c : Condition) : c.Valid t ∨ ∃ e, c.Refused t e := by
  by_cases hnamed : ∃ column ∈ t.columns, Text.sameName column.property c.property
  · by_cases hcomparable : c.value = .null → c.operator = .eq
    · exact .inl ⟨hnamed, hcomparable⟩
    · obtain ⟨hnull, hop⟩ := Classical.not_imp.mp hcomparable
      exact .inr ⟨_, .incomparable hnamed hnull hop⟩
  · exact .inr ⟨_, .unknown fun column hcolumn hname => hnamed ⟨column, hcolumn, hname⟩⟩

/-- A valid leaf is drafted, and binds its value if it has one. -/
theorem Valid.exists_run_draft (h : c.Valid t) (d : Dialect) (ps : Parameters) :
    ∃ sql, (c.draft t d).run ps = (.ok sql, ps.pushAll (valuesOf [c])) := by
  obtain ⟨column, hcolumn⟩ := Table.exists_column_eq_ok h.named
  rw [draft, hcolumn, Draft.ofExcept_ok, pure_bind]
  cases hnull : c.value.isNull with
  | true =>
      have hnothing : valuesOf [c] = [] := by simp [valuesOf, hnull]
      rw [hnothing, if_pos rfl, h.comparable (Value.isNull_iff.mp hnull)]
      cases c.negated <;> exact ⟨_, rfl⟩
  | false =>
      have hvalue : valuesOf [c] = [c.value] := by simp [valuesOf, hnull]
      rw [hvalue, if_neg (by simp), Draft.run_bind_of_ok (Draft.run_place c.value ps)]
      exact ⟨_, rfl⟩

/-- A refused leaf binds nothing. -/
theorem Refused.run_draft (h : c.Refused t e) (d : Dialect) (ps : Parameters) :
    (c.draft t d).run ps = (.error e, ps) := by
  rw [draft]
  cases h with
  | unknown h =>
      rw [Table.column_eq_error h]
      rfl
  | incomparable h hnull hop =>
      obtain ⟨column, hcolumn⟩ := Table.exists_column_eq_ok h
      rw [hcolumn, Draft.ofExcept_ok, pure_bind, if_pos (Value.isNull_iff.mpr hnull)]
      cases hc : c.operator <;> simp_all

/-- A leaf is a walk over itself. -/
theorem walks (t : Table) (d : Dialect) (c : Condition) : Draft.Walks t [c] (c.draft t d) := by
  intro ps
  rcases c.valid_or_refused t with hvalid | ⟨e, hrefused⟩
  · obtain ⟨sql, hrun⟩ := hvalid.exists_run_draft d ps
    rw [hrun]
    exact .through sql (List.forall_mem_singleton.mpr hvalid)
  · rw [hrefused.run_draft d ps]
    exact .stopped (List.forall_mem_nil _) hrefused

end Condition

namespace Predicate

variable (t : Table) (d : Dialect)

mutual

/-- **Drafting a predicate is a walk over its leaves.** -/
theorem walks : ∀ p : Predicate, Draft.Walks t p.leaves (p.draft t d)
  | field c => by
      rw [draft, leaves]
      exact c.walks t d
  | group op [] => by
      rw [draft]
      exact Draft.walks_pure _
  | group op (p :: ps) => by
      rw [draft, leaves, leavesOfAll]
      exact (walks p).bind fun first => (walksAll ps).map _

theorem walksAll : ∀ ps : List Predicate, Draft.Walks t (leavesOfAll ps) (draftAll t d ps)
  | [] => Draft.walks_pure _
  | p :: ps => by
      rw [draftAll, leavesOfAll]
      exact (walks p).bind fun first => (walksAll ps).map _

end

/-- **Which predicates are drafted, and what is bound.**  A predicate is drafted exactly if every leaf
names a property of the table and compares with null for equality only; otherwise the error is one of
configuration, and about the first leaf that does not.  Either way the parameters from before stay, and
behind them come the values of the leaves in front of that leaf, as far as they are not null. -/
theorem draft_walk (p : Predicate) (ps : Parameters) :
    ((∃ sql, ((p.draft t d).run ps).1 = .ok sql) ↔ ∀ c ∈ p.leaves, c.Valid t)
      ∧ (∀ e, ((p.draft t d).run ps).1 = .error e → e.kind = .configuration)
      ∧ ∃ before after added, p.leaves = before ++ after
        ∧ (∀ c ∈ before, c.Valid t) ∧ (∀ c ∈ after.head?, ¬ c.Valid t)
        ∧ ((p.draft t d).run ps).2 = ⟨ps.style, ps.items ++ added⟩
        ∧ added.map (·.value) = (before.map (·.value)).filter (fun v => !v.isNull)
        ∧ ∀ e, ((p.draft t d).run ps).1 = .error e → ∃ c ∈ after.head?, c.Refused t e := by
  have hend := p.walks t d ps
  generalize (p.draft t d).run ps = r at hend ⊢
  generalize p.leaves = leaves at hend ⊢
  have hpush : ∀ xs, ps.pushAll (Condition.valuesOf xs)
      = ⟨ps.style, ps.items ++ Parameters.numbered ps.style ps.size (Condition.valuesOf xs)⟩ :=
    fun xs => by rw [← Parameters.items_pushAll, ← Parameters.style_pushAll]
  refine ⟨hend.isOk_iff, ?_⟩
  cases hend with
  | through sql hvalid =>
      refine ⟨?_, leaves, [], _, (List.append_nil _).symm, hvalid, ?_, hpush leaves,
        Parameters.values_numbered _ _ _, ?_⟩
      · rintro _ ⟨⟩
      · simp
      · rintro _ ⟨⟩
  | @stopped before after c e hvalid hrefused =>
      refine ⟨?_, before, c :: after, _, rfl, hvalid, ?_, hpush before,
        Parameters.values_numbered _ _ _, ?_⟩
      · rintro _ ⟨⟩
        exact hrefused.kind_eq
      · rintro _ ⟨⟩
        exact hrefused.not_valid
      · rintro _ ⟨⟩
        exact ⟨c, rfl, hrefused⟩

/-- The second leaf of a group inside is not drafted: the leaf after the group was not come to. -/
example :
    let t : Table := ⟨"User", "users", none, [.ofProperty "Name" .notAKey, .ofProperty "Age" .notAKey]⟩
    let inside := group .or [.eq "AGE" (.integer 18), .leaf "Age" .gt .null]
    ((group .and [.eq "Name" .null, inside, .eq "Name" (.text "Ann")]).draft t .sqlite).run
        (.empty .atSign)
      = (.error (.nullComparison .gt "Age"), ⟨.atSign, [⟨"@p0", .integer 18, none⟩]⟩) := by
  rfl

end Predicate

end SqlRecords
