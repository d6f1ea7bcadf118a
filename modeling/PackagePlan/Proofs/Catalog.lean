import PackagePlan.Catalog

/-! # The cache of a catalog

A computation over a catalog is told by two things that the cache has no part in: what it
answers, and which names it looks up on the way.  Both are functions of what the names stand
for, the *meaning* of names (`Follows`).

* `Catalog.Coherent` : a definition kept under a name is the one that the name stands for.
* `Catalog.visit` : the catalog after names have been looked up in turn; it stays coherent
  (`Coherent.visit`) and over the same texts (`sources_visit`).
* `result_resolve` : a lookup that keeps what it has read answers what the name stands for.
* `follows_pure`, `follows_throw`, `follows_bind`, `Follows.map`, `follows_resolve_bind` : how
  computations that follow a meaning are put together. -/

namespace PackagePlan

/-- What names stand for. -/
abbrev Meaning := String → Except Error Definition

variable {α β : Type}

/-! ### Running a computation -/

namespace CatalogM

/-- The answer of a computation over a catalog. -/
def result (x : CatalogM α) (catalog : Catalog) : Except Error α := (x.run.run catalog).1

/-- The catalog that a computation leaves. -/
def after (x : CatalogM α) (catalog : Catalog) : Catalog := (x.run.run catalog).2

theorem run_pure (a : α) (c : Catalog) : (pure a : CatalogM α).run.run c = (.ok a, c) := rfl

theorem run_throw (e : Error) (c : Catalog) : (throw e : CatalogM α).run.run c = (.error e, c) :=
  rfl

theorem run_bind (x : CatalogM α) (f : α → CatalogM β) (c : Catalog) :
    (x >>= f).run.run c =
      match x.result c with
      | .ok a => (f a).run.run (x.after c)
      | .error e => (.error e, x.after c) := by
  unfold result after
  simp only [ExceptT.run_bind, StateT.run_bind]
  rcases x.run.run c with ⟨answer, c'⟩
  cases answer <;> rfl

theorem run_map (x : CatalogM α) (g : α → β) (c : Catalog) :
    (do return g (← x) : CatalogM β).run.run c = ((x.result c).map g, x.after c) := by
  rw [run_bind]
  cases x.result c <;> rfl

theorem run_lift {x : StateM Catalog α} {c c' : Catalog} {a : α} (h : x.run c = (a, c')) :
    (liftM x : CatalogM α).run.run c = (.ok a, c') := by
  have e : (liftM x : CatalogM α).run = Except.ok <$> x := rfl
  rw [e, StateT.run_map, h]
  rfl

end CatalogM

/-! ### Coherent catalogs -/

namespace Catalog

/-- Every definition that is kept under a name is the one that the name stands for. -/
def Coherent (c : Catalog) : Prop :=
  ∀ name entry, c.loaded.get? name = some entry → c.lookup name = .ok entry.definition

/-- The catalog after names have been looked up in turn. -/
def visit (c : Catalog) (names : List String) : Catalog :=
  names.foldl (fun c name => (resolve name).after c) c

theorem coherent_fresh (sources : Table String) : Coherent { sources } := by
  intro name entry h
  cases h

theorem lookup_congr {c c' : Catalog} (h : c.sources = c'.sources) : c.lookup = c'.lookup := by
  funext name
  simp only [lookup, h]

/-- What `resolve` does, by what is kept and what the name stands for. -/
theorem run_resolve (name : String) (c : Catalog) :
    (resolve name).run.run c =
      match c.loaded.get? name with
      | some entry => (.ok entry, c)
      | none =>
        match c.lookup name with
        | .error e => (.error e, c)
        | .ok d => (.ok (c.keep name d).1, (c.keep name d).2) :=
  rfl

theorem after_resolve (name : String) (c : Catalog) :
    (resolve name).after c = c ∨
      ∃ d, c.lookup name = .ok d ∧ (resolve name).after c = (c.keep name d).2 := by
  unfold CatalogM.after
  rw [run_resolve]
  cases c.loaded.get? name with
  | some entry => exact .inl rfl
  | none =>
    cases h : c.lookup name with
    | error e => exact .inl rfl
    | ok d => exact .inr ⟨d, rfl, rfl⟩

theorem after_resolve_of_error {name : String} {c : Catalog} {e : Error}
    (h : (resolve name).result c = .error e) : (resolve name).after c = c := by
  unfold CatalogM.result at h
  unfold CatalogM.after
  rw [run_resolve] at h ⊢
  cases hk : c.loaded.get? name with
  | some entry => rfl
  | none =>
    rw [hk] at h
    cases hl : c.lookup name with
    | error e => rfl
    | ok d => simp [hl] at h

theorem sources_resolve (name : String) (c : Catalog) :
    ((resolve name).after c).sources = c.sources := by
  rcases after_resolve name c with h | ⟨d, _, h⟩ <;> rw [h]
  rfl

theorem Coherent.resolve {c : Catalog} (hc : c.Coherent) (name : String) :
    ((Catalog.resolve name).after c).Coherent := by
  rcases after_resolve name c with h | ⟨d, hd, h⟩
  · rwa [h]
  · intro other entry he
    have hl := lookup_congr (sources_resolve name c)
    rw [h] at he hl ⊢
    rw [hl]
    simp only [keep, Table.get?_insert] at he
    split at he
    case isTrue heq =>
      obtain rfl := Option.some.inj he
      rw [heq]
      exact hd
    case isFalse => exact hc other entry he

/-- Over a coherent catalog a lookup answers what the name stands for. -/
theorem result_resolve {c : Catalog} (hc : c.Coherent) (name : String) :
    ((resolve name).result c).map (·.definition) = c.lookup name := by
  unfold CatalogM.result
  rw [run_resolve]
  cases hk : c.loaded.get? name with
  | some entry => exact (hc name entry hk).symm
  | none => cases c.lookup name <;> rfl

@[simp] theorem visit_nil (c : Catalog) : c.visit [] = c := rfl

theorem visit_cons (c : Catalog) (name : String) (names : List String) :
    c.visit (name :: names) = ((resolve name).after c).visit names := rfl

theorem visit_append (c : Catalog) (names more : List String) :
    c.visit (names ++ more) = (c.visit names).visit more := by
  simp only [visit, List.foldl_append]

theorem sources_visit : ∀ (names : List String) (c : Catalog),
    (c.visit names).sources = c.sources
  | [], _ => rfl
  | name :: names, c => by
      rw [visit_cons, sources_visit names, sources_resolve]

theorem lookup_visit (c : Catalog) (names : List String) : (c.visit names).lookup = c.lookup :=
  lookup_congr (sources_visit names c)

theorem Coherent.visit {c : Catalog} (hc : c.Coherent) (names : List String) :
    (c.visit names).Coherent := by
  induction names generalizing c with
  | nil => exact hc
  | cons name names ih => exact ih (hc.resolve name)

end Catalog

/-! ### Computations told without the cache -/

namespace CatalogM

/-- Over a coherent catalog the computation answers `value` and looks up `names`, both given by
what names stand for. -/
def Follows (x : CatalogM α) (value : Meaning → Except Error α) (names : Meaning → List String) :
    Prop :=
  ∀ c : Catalog, c.Coherent → x.run.run c = (value c.lookup, c.visit (names c.lookup))

theorem Follows.result_eq {x : CatalogM α} {value : Meaning → Except Error α}
    {names : Meaning → List String} (h : x.Follows value names) {c : Catalog} (hc : c.Coherent) :
    x.result c = value c.lookup := by
  rw [result, h c hc]

theorem Follows.after_eq {x : CatalogM α} {value : Meaning → Except Error α}
    {names : Meaning → List String} (h : x.Follows value names) {c : Catalog} (hc : c.Coherent) :
    x.after c = c.visit (names c.lookup) := by
  rw [after, h c hc]

theorem Follows.congr {x : CatalogM α} {value value' : Meaning → Except Error α}
    {names names' : Meaning → List String} (h : x.Follows value names)
    (hv : ∀ meaning, value meaning = value' meaning)
    (hn : ∀ meaning, names meaning = names' meaning) : x.Follows value' names' := by
  intro c hc
  rw [h c hc, hv, hn]

theorem follows_pure (a : α) : Follows (pure a) (fun _ => .ok a) (fun _ => []) :=
  fun c _ => run_pure a c

theorem follows_throw (e : Error) : Follows (throw e : CatalogM α) (fun _ => .error e) (fun _ => []) :=
  fun c _ => run_throw e c

theorem follows_bind {x : CatalogM α} {f : α → CatalogM β} {value : Meaning → Except Error α}
    {names : Meaning → List String} {value' : α → Meaning → Except Error β}
    {names' : α → Meaning → List String} (hx : x.Follows value names)
    (hf : ∀ a, (f a).Follows (value' a) (names' a)) :
    (x >>= f).Follows
      (fun meaning => match value meaning with
        | .ok a => value' a meaning
        | .error e => .error e)
      (fun meaning => match value meaning with
        | .ok a => names meaning ++ names' a meaning
        | .error _ => names meaning) := by
  intro c hc
  rw [run_bind, hx.result_eq hc, hx.after_eq hc]
  cases hv : value c.lookup with
  | error e => simp only [hv]
  | ok a =>
    simp only [hv]
    rw [hf a _ (hc.visit _), Catalog.lookup_visit, Catalog.visit_append]

theorem Follows.map {x : CatalogM α} {value : Meaning → Except Error α}
    {names : Meaning → List String} (h : x.Follows value names) (g : α → β) :
    (do return g (← x) : CatalogM β).Follows (fun meaning => (value meaning).map g) names := by
  intro c hc
  rw [run_map, h.result_eq hc, h.after_eq hc]

/-- A lookup followed by something that depends on the definition found, not on when it was
read. -/
theorem follows_resolve_bind (name : String) {f : Loaded → CatalogM β}
    (value : Definition → Meaning → Except Error β) (names : Definition → Meaning → List String)
    (hf : ∀ entry, (f entry).Follows (value entry.definition) (names entry.definition)) :
    (Catalog.resolve name >>= f).Follows
      (fun meaning => match meaning name with
        | .ok d => value d meaning
        | .error e => .error e)
      (fun meaning => match meaning name with
        | .ok d => name :: names d meaning
        | .error _ => [name]) := by
  intro c hc
  have hr := Catalog.result_resolve hc name
  rw [run_bind]
  cases h : (Catalog.resolve name).result c with
  | error e =>
    have hl : c.lookup name = .error e := by rw [← hr, h]; rfl
    simp only [hl]
    rfl
  | ok entry =>
    have hl : c.lookup name = .ok entry.definition := by rw [← hr, h]; rfl
    simp only [hl]
    rw [hf entry _ (hc.resolve name), Catalog.lookup_congr (Catalog.sources_resolve name c)]
    rfl

end CatalogM

end PackagePlan
