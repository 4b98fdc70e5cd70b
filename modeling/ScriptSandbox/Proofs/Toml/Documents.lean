import ScriptSandbox.Proofs.Toml.Tables

/-!
# Documents that are read

Whatever the text, a document that is read has no key twice in a table. For a reader it does not
matter which characters it takes, only what it may give.

## Main definitions

* `Toml.Reader.Gives`: all that a reader gives meets a condition

## Main results

* `Toml.distinct_readValue`: values that are read
* `Toml.distinct_read`: documents that are read
-/

namespace ScriptSandbox.Toml

variable {α β : Type}

namespace Reader

variable {r : Reader α} {P : α → Prop}

/-- Whatever the text, all that the reader gives meets a condition. -/
def Gives (r : Reader α) (P : α → Prop) : Prop := ∀ c a c', r c = .ok (a, c') → P a

theorem gives_true (r : Reader α) : r.Gives fun _ => True := fun _ _ _ _ => trivial

theorem gives_pure {a : α} (h : P a) : Gives (pure a) P := by
  intro c a' c' heq
  obtain ⟨rfl, -⟩ := Prod.mk.inj (Except.ok.inj heq)
  exact h

theorem gives_refuse : Gives (refuse : Reader α) P := by
  intro c a c' heq
  cases heq

theorem Gives.bind {f : α → Reader β} {Q : β → Prop} (hr : r.Gives P)
    (hf : ∀ a, P a → (f a).Gives Q) : (r >>= f).Gives Q := by
  intro c b c' heq
  obtain ⟨⟨a, c₁⟩, ha, hb⟩ := bind_eq_ok_iff.mp heq
  exact hf a (hr c a c₁ ha) c₁ b c' hb

/-- One reader after another, of which the first one may give anything. -/
theorem gives_bind {f : α → Reader β} {Q : β → Prop} (r : Reader α)
    (hf : ∀ a, (f a).Gives Q) : (r >>= f).Gives Q := r.gives_true.bind fun a _ => hf a

theorem Gives.mapRefusal (f : Refusal → Refusal) (hr : r.Gives P) : (r.mapRefusal f).Gives P := by
  intro c a c' heq
  exact hr c a c' (mapError_eq_ok_iff.mp heq)

theorem Gives.expecting (xs : List Expected) (hr : r.Gives P) : (expecting xs r).Gives P :=
  hr.mapRefusal _

theorem Gives.commit (hr : r.Gives P) : (commit r).Gives P := hr.mapRefusal _

theorem Gives.part (p : Part) (hr : r.Gives P) : (part p r).Gives P := hr.mapRefusal _

theorem Gives.attempt (hr : r.Gives P) : (attempt r).Gives fun a? => ∀ a ∈ a?, P a := by
  intro c a? c' heq
  unfold Reader.attempt at heq
  split at heq
  next a c'' ha =>
    obtain ⟨rfl, -⟩ := Prod.mk.inj (Except.ok.inj heq)
    rintro _ ⟨⟩
    exact hr c a c'' ha
  next e he =>
    split_ifs at heq
    obtain ⟨rfl, -⟩ := Prod.mk.inj (Except.ok.inj heq)
    nofun

theorem Gives.checked {f : α → Except Cause β} {Q : β → Prop} (hr : r.Gives P)
    (hf : ∀ a b, P a → f a = .ok b → Q b) : (checked r f).Gives Q := by
  unfold Reader.checked
  refine gives_bind _ fun start => hr.bind fun a ha => ?_
  cases hb : f a with
  | ok b => exact gives_pure (hf a b ha hb)
  | error cause =>
    intro c b c' heq
    cases heq

end Reader

open Reader

/-! ### Keys -/

theorem ne_nil_readKeyTail (fuel : Nat) {found : List Key} (h : found ≠ []) :
    (readKeyTail fuel found).Gives (· ≠ []) := by
  induction fuel generalizing found with
  | zero =>
    unfold readKeyTail
    exact gives_pure (List.reverse_ne_nil_iff.mpr h)
  | succ fuel ih =>
    unfold readKeyTail
    refine gives_bind _ fun k? => ?_
    cases k? with
    | some k => exact ih (List.cons_ne_nil k found)
    | none => exact gives_pure (List.reverse_ne_nil_iff.mpr h)

/-- A key has a part. -/
theorem ne_nil_readKey : readKey.Gives (· ≠ []) := by
  unfold readKey
  refine Gives.checked (P := (· ≠ [])) (Gives.part _ ?_) fun ks ks' hks heq => ?_
  · exact gives_bind _ fun k => gives_bind _ fun bound =>
      ne_nil_readKeyTail _ (List.cons_ne_nil k [])
  · split_ifs at heq
    obtain rfl := Except.ok.inj heq
    exact hks

/-! ### Values -/

/-- Members of a table between braces whose values have no key twice. -/
theorem distinct_members {members : List (List Key × Span × Node)}
    (h : ∀ m ∈ members, m.2.2.Distinct) {es es' : Entries} (hes : es.Distinct)
    (hput : members.foldlM (fun es (key, v) => es.putDotted none v key) es = .ok es') :
    es'.Distinct := by
  induction members generalizing es with
  | nil =>
    obtain rfl := Except.ok.inj hput
    exact hes
  | cons m members ih =>
    rw [List.foldlM_cons] at hput
    obtain ⟨hm, hmembers⟩ := List.forall_mem_cons.mp h
    obtain ⟨es₁, hput₁, hput⟩ := bind_eq_ok_iff.mp hput
    exact ih hmembers (Entries.distinct_putDotted hm hes hput₁) hput

/-- What the readers of values give: the induction is on the fuel, for all of them at once. -/
theorem distinct_readers (fuel : Nat) :
    (∀ depth, (readValue fuel depth).Gives fun v => v.2.Distinct) ∧
    (∀ depth, (readElements fuel depth).Gives fun vs => ∀ v ∈ vs, v.2.Distinct) ∧
    (∀ depth, (readElement fuel depth).Gives fun v => v.2.Distinct) ∧
    (∀ depth found, (∀ v ∈ found, v.2.Distinct) →
      (moreElements fuel depth found).Gives fun vs => ∀ v ∈ vs, v.2.Distinct) ∧
    (∀ depth, (readMembers fuel depth).Gives Entries.Distinct) ∧
    (∀ depth, (readMember fuel depth).Gives fun m => m.2.2.Distinct) ∧
    ∀ depth found, (∀ m ∈ found, m.2.2.Distinct) →
      (moreMembers fuel depth found).Gives fun ms => ∀ m ∈ ms, m.2.2.Distinct := by
  induction fuel with
  | zero =>
    refine ⟨fun _ => ?_, fun _ => ?_, fun _ => ?_, fun _ _ _ => ?_, fun _ => ?_, fun _ => ?_,
      fun _ _ _ => ?_⟩
    all_goals
      simp only [readValue, readElements, readElement, moreElements, readMembers, readMember,
        moreMembers]
      exact gives_refuse
  | succ fuel ih =>
    -- only what is kept matters, and that comes from readers with less fuel
    obtain ⟨hvalue, helements, helement, hmoreElements, hmembers, hmember, hmoreMembers⟩ := ih
    refine ⟨fun depth => ?_, fun depth => ?_, fun depth => ?_, fun depth found hfound => ?_,
      fun depth => ?_, fun depth => ?_, fun depth found hfound => ?_⟩
    · unfold readValue
      refine gives_bind _ fun start => gives_bind _ fun c? => ?_
      split
      next =>
        refine gives_bind _ fun _ => Gives.bind (Gives.commit (P := Node.Distinct) ?_) ?_
        · exact (helements _).bind fun vs hvs => gives_bind _ fun _ => gives_pure (.array hvs)
        · exact fun n hn => gives_bind _ fun _ => gives_pure hn
      next =>
        refine gives_bind _ fun _ => Gives.bind (Gives.commit (P := Node.Distinct) ?_) ?_
        · exact (hmembers _).bind fun es hes =>
            gives_bind _ fun _ => gives_pure (Entries.distinct_table_iff.mpr hes)
        · exact fun n hn => gives_bind _ fun _ => gives_pure hn
      next =>
        refine gives_bind _ fun scalar => Gives.bind (gives_pure (P := Node.Distinct) ?_) ?_
        · exact .scalar scalar
        · exact fun n hn => gives_bind _ fun _ => gives_pure hn
    · unfold readElements
      refine gives_bind _ fun c? => ?_
      split_ifs
      · exact gives_pure (List.forall_mem_nil _)
      · refine (helement _).attempt.bind fun first? hfirst => ?_
        cases first? with
        | some first =>
          refine (hmoreElements _ _ (List.forall_mem_singleton.mpr (hfirst first rfl))).bind ?_
          exact fun vs hvs => gives_bind _ fun _ => gives_bind _ fun _ => gives_bind _ fun _ =>
            gives_pure hvs
        | none =>
          exact gives_bind _ fun _ => gives_bind _ fun _ => gives_pure (List.forall_mem_nil _)
    · unfold readElement
      refine gives_bind _ fun _ => gives_bind _ fun _ => (hvalue _).bind fun v hv => ?_
      exact gives_bind _ fun _ => gives_bind _ fun _ => gives_pure hv
    · unfold moreElements
      refine (Gives.attempt (gives_bind _ fun _ => helement _)).bind fun v? hv => ?_
      cases v? with
      | some v => exact hmoreElements _ _ (List.forall_mem_cons.mpr ⟨hv v rfl, hfound⟩)
      | none => exact gives_pure fun v hv => hfound v (List.mem_reverse.mp hv)
    · unfold readMembers
      refine Gives.checked (P := fun ms => ∀ m ∈ ms, m.2.2.Distinct) ?_ fun ms es hms hput =>
        distinct_members hms Entries.distinct_nil hput
      refine (hmember _).attempt.bind fun first? hfirst => ?_
      cases first? with
      | some first =>
        refine (hmoreMembers _ _ (List.forall_mem_singleton.mpr (hfirst first rfl))).bind ?_
        exact fun ms hms => gives_bind _ fun _ => gives_pure hms
      | none =>
        refine (gives_pure (P := (· = [])) rfl).bind ?_
        rintro _ rfl
        exact gives_bind _ fun _ => gives_pure (List.forall_mem_nil _)
    · unfold readMember
      refine gives_bind _ fun key => Gives.commit (gives_bind _ fun _ => ?_)
      exact (hvalue _).bind fun v hv => gives_bind _ fun _ => gives_pure hv
    · unfold moreMembers
      refine (Gives.attempt (gives_bind _ fun _ => hmember _)).bind fun m? hm => ?_
      cases m? with
      | some m => exact hmoreMembers _ _ (List.forall_mem_cons.mpr ⟨hm m rfl, hfound⟩)
      | none => exact gives_pure fun m hm => hfound m (List.mem_reverse.mp hm)

theorem distinct_readValue (fuel depth : Nat) :
    (readValue fuel depth).Gives fun v => v.2.Distinct := (distinct_readers fuel).1 depth

/-! ### Lines -/

variable {s : Section} {document : Entries}

/-- A header ends one section and begins the next. -/
theorem lawful_readHeader (h : s.Lawful document) :
    (readHeader s document).Gives fun next => next.1.Lawful next.2 := by
  unfold readHeader
  refine Gives.part _ (gives_bind _ fun start => gives_bind _ fun both => ?_)
  refine Gives.checked (P := fun line => line.1 ≠ []) ?_ fun line next hkey hnext => ?_
  · exact gives_bind _ fun _ => ne_nil_readKey.bind fun key hkey => gives_bind _ fun _ =>
      gives_bind _ fun stop => gives_bind _ fun _ => gives_pure hkey
  obtain ⟨document', hclose, hstart⟩ := bind_eq_ok_iff.mp hnext
  have hdocument' : document'.Distinct := Section.distinct_close h hclose
  split at hstart
  next => exact Section.lawful_start hdocument' hstart
  next hlast => exact absurd (List.getLast?_eq_none_iff.mp hlast) hkey

theorem lawful_readEntry (h : s.Lawful document) :
    (readEntry s).Gives fun next => next.Lawful document := by
  unfold readEntry
  refine Gives.checked (P := fun line => line.2.2.Distinct) ?_ fun line next hv hput =>
    h.put hv hput
  refine gives_bind _ fun key => gives_bind _ fun _ => gives_bind _ fun bound => ?_
  exact (distinct_readValue _ _).bind fun v hv => gives_bind _ fun _ => gives_pure hv

/-- What the lines of a document give: the induction is on the fuel. -/
theorem distinct_readDocument (fuel : Nat) (h : s.Lawful document) :
    (readDocument fuel s document).Gives Entries.Distinct := by
  induction fuel generalizing s document with
  | zero =>
    unfold readDocument
    exact gives_refuse
  | succ fuel ih =>
    unfold readDocument
    refine gives_bind _ fun _ => gives_bind _ fun c? => ?_
    split
    -- the end, a comment, the two line ends, a header and a key
    next => exact Gives.checked (gives_true _) fun _ es _ hclose => Section.distinct_close h hclose
    next => exact gives_bind _ fun _ => gives_bind _ fun _ => ih h
    next =>
      refine gives_bind _ fun ended? => ?_
      split_ifs
      · exact gives_bind _ fun _ => ih h
      · exact ih h
    next =>
      refine gives_bind _ fun ended? => ?_
      split_ifs
      · exact gives_bind _ fun _ => ih h
      · exact ih h
    next => exact (lawful_readHeader h).bind fun next hnext => ih hnext
    next => exact (lawful_readEntry h).bind fun next hnext => ih hnext

/-- A document that is read has no key twice. -/
theorem distinct_read {text : String} (h : read text = .ok document) : document.Distinct := by
  obtain ⟨⟨document', c⟩, hrun, rfl⟩ := map_eq_ok_iff.mp h
  have hgives : Gives (do
      let _ ← accept '\uFEFF'
      readDocument ((← remaining) + 1) {} []) Entries.Distinct :=
    gives_bind _ fun _ => gives_bind _ fun bound =>
      distinct_readDocument _ ⟨Entries.distinct_nil, Entries.distinct_nil, nofun⟩
  exact hgives _ _ _ hrun

end ScriptSandbox.Toml
