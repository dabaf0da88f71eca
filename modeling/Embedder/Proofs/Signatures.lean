import Embedder.Proofs.Creation
import Embedder.Proofs.Registry

/-!
# Signatures and their texts

A signature is written as its parameters in brackets, an arrow and its results; values are described by their
types in brackets. Where a text of types ends can be seen from the text itself, so nothing is lost in writing:

* **`ValueType.bracketed_append_inj`** -- types in brackets are known from any text that begins with them;
* **`Signature.text_inj`** -- two signatures with one text are the same;
* **`Signature.accepts_iff_begins`** -- values fit a signature iff its text begins with their description;
* `RuntimeError.compared?` -- the signatures that an error shows side by side;
* **`signaturesTold`** -- so no error of a registration, of a resolution or of a call shows one text twice.
-/

namespace Embedder

variable {σ : Type}

/-! ## 1. Types in brackets -/

namespace ValueType

theorem name_inj {t u : ValueType} : t.name = u.name ↔ t = u := by
  cases t <;> cases u <;> decide

theorem length_name (t : ValueType) : t.name.toList.length = 3 := by
  cases t <;> rfl

/-- A name does not begin with a bracket. -/
theorem head?_name (t : ValueType) : t.name.toList.head? = some 'i' ∨ t.name.toList.head? = some 'f' := by
  cases t <;> decide

/-- All names have one length, so the type whose name begins a text is known, and the rest of the text. -/
theorem name_append_inj {t u : ValueType} {cs ds : List Char}
    (h : t.name.toList ++ cs = u.name.toList ++ ds) : t = u ∧ cs = ds := by
  obtain ⟨hname, hrest⟩ := List.append_inj h ((length_name t).trans (length_name u).symm)
  exact ⟨name_inj.mp (String.toList_inj.mp hname), hrest⟩

theorem name_append_ne {t : ValueType} {c : Char} (hi : c ≠ 'i') (hf : c ≠ 'f') (cs ds : List Char) :
    t.name.toList ++ cs ≠ c :: ds := by
  intro h
  have hhead : (t.name.toList ++ cs).head? = some c := by rw [h, List.head?_cons]
  rcases head?_name t with ht | ht <;> rw [List.head?_append, ht] at hhead <;> cases hhead
  · exact hi rfl
  · exact hf rfl

/-- The names of types after a first one, each with a comma before it. -/
def laterChars (ts : List ValueType) : List Char := ts.flatMap fun t => ',' :: ' ' :: t.name.toList

theorem toList_listText_cons (t : ValueType) : ∀ ts : List ValueType,
    (listText (t :: ts)).toList = t.name.toList ++ laterChars ts
  | [] => by simp [listText, laterChars]
  | u :: ts => by
      have ih := toList_listText_cons u ts
      have hsplit : listText (t :: u :: ts) = t.name ++ ", " ++ listText (u :: ts) :=
        String.intercalate_cons_cons
      rw [hsplit, String.toList_append, String.toList_append, ih]
      simp [laterChars]

/-- What comes after a name is a comma or a bracket, and that tells whether the list goes on. -/
theorem laterChars_append_inj : ∀ {ts us : List ValueType} {cs ds : List Char},
    laterChars ts ++ ')' :: cs = laterChars us ++ ')' :: ds → ts = us ∧ cs = ds
  | [], [], _, _, h => ⟨rfl, List.tail_eq_of_cons_eq h⟩
  | [], _ :: _, _, _, h => by simp [laterChars] at h
  | _ :: _, [], _, _, h => by simp [laterChars] at h
  | t :: ts, u :: us, cs, ds, h => by
      have hnames : t.name.toList ++ (laterChars ts ++ ')' :: cs) =
          u.name.toList ++ (laterChars us ++ ')' :: ds) := by
        simpa [laterChars] using h
      obtain ⟨rfl, hlater⟩ := name_append_inj hnames
      obtain ⟨rfl, hrest⟩ := laterChars_append_inj hlater
      exact ⟨rfl, hrest⟩

theorem listText_append_inj : ∀ {ts us : List ValueType} {cs ds : List Char},
    (listText ts).toList ++ ')' :: cs = (listText us).toList ++ ')' :: ds → ts = us ∧ cs = ds
  | [], [], _, _, h => ⟨rfl, List.tail_eq_of_cons_eq h⟩
  | [], u :: us, cs, ds, h => by
      rw [toList_listText_cons, List.append_assoc] at h
      exact absurd h.symm (name_append_ne (by decide) (by decide) _ cs)
  | t :: ts, [], cs, ds, h => by
      rw [toList_listText_cons, List.append_assoc] at h
      exact absurd h (name_append_ne (by decide) (by decide) _ ds)
  | t :: ts, u :: us, cs, ds, h => by
      rw [toList_listText_cons, toList_listText_cons, List.append_assoc, List.append_assoc] at h
      obtain ⟨rfl, hlater⟩ := name_append_inj h
      obtain ⟨rfl, hrest⟩ := laterChars_append_inj hlater
      exact ⟨rfl, hrest⟩

/-- The names of some types, in brackets. -/
def bracketed (ts : List ValueType) : String := "(" ++ listText ts ++ ")"

/-- **Types in brackets are known from any text that begins with them**, and so is the rest of the text. -/
theorem bracketed_append_inj {ts us : List ValueType} {s t : String}
    (h : bracketed ts ++ s = bracketed us ++ t) : ts = us ∧ s = t := by
  have hchars : (listText ts).toList ++ ')' :: s.toList = (listText us).toList ++ ')' :: t.toList := by
    simpa [bracketed] using congrArg String.toList h
  obtain ⟨hts, hrest⟩ := listText_append_inj hchars
  exact ⟨hts, String.toList_inj.mp hrest⟩

theorem name_ne_bracketed (t : ValueType) (ts : List ValueType) : t.name ≠ bracketed ts := by
  intro h
  have hchars : t.name.toList ++ [] = '(' :: ((listText ts).toList ++ [')']) := by
    simpa [bracketed] using congrArg String.toList h
  exact name_append_ne (by decide) (by decide) _ _ hchars

end ValueType

open ValueType (bracketed)

/-! ## 2. Signatures -/

namespace Signature

theorem text_eq (s : Signature) : s.text = bracketed s.params ++ (" -> " ++ resultsText s.results) := by
  apply String.toList_inj.mp
  simp [text, bracketed]

/-- Results are a bare name if there is one of them, and in brackets otherwise. -/
theorem resultsText_cases : ∀ rs : List ValueType,
    (∃ t, rs = [t] ∧ resultsText rs = t.name) ∨ resultsText rs = bracketed rs
  | [] => .inr rfl
  | [t] => .inl ⟨t, rfl, rfl⟩
  | _ :: _ :: _ => .inr rfl

theorem resultsText_inj {rs qs : List ValueType} (h : resultsText rs = resultsText qs) : rs = qs := by
  rcases resultsText_cases rs with ⟨t, rfl, ht⟩ | hr <;> rcases resultsText_cases qs with ⟨u, rfl, hu⟩ | hq
  · rw [ht, hu] at h
    rw [ValueType.name_inj.mp h]
  · rw [ht, hq] at h
    exact absurd h (ValueType.name_ne_bracketed t qs)
  · rw [hr, hu] at h
    exact absurd h.symm (ValueType.name_ne_bracketed u rs)
  · rw [hr, hq] at h
    exact (ValueType.bracketed_append_inj (s := "") (t := "") (by rw [h])).1

/-- **Two signatures with one text are the same.** -/
theorem text_inj {a b : Signature} : a.text = b.text ↔ a = b := by
  constructor
  · intro h
    rw [text_eq, text_eq] at h
    obtain ⟨hparams, hrest⟩ := ValueType.bracketed_append_inj h
    have hresults : a.results = b.results := resultsText_inj ((String.append_right_inj _).mp hrest)
    cases a
    cases b
    cases hparams
    cases hresults
    rfl
  · rintro rfl
    rfl

-- one result stands bare, none and several are in brackets
example : (⟨[.i64, .i64], [.i64]⟩ : Signature).text = "(i64, i64) -> i64" ∧
    (⟨[], []⟩ : Signature).text = "() -> ()" ∧ (⟨[], [.i32, .f64]⟩ : Signature).text = "() -> (i32, f64)" := by
  decide

/-- **Values fit a signature iff its text begins with their description**, followed by the arrow. -/
theorem accepts_iff_begins (s : Signature) (vs : List Value) :
    s.accepts vs = true ↔ ∃ rest, s.text = Value.describe vs ++ " -> " ++ rest := by
  have hdescribe : Value.describe vs = bracketed (vs.map Value.type) := rfl
  rw [accepts_iff, text_eq, hdescribe]
  constructor
  · intro h
    exact ⟨resultsText s.results, by rw [h, String.append_assoc]⟩
  · rintro ⟨rest, h⟩
    rw [String.append_assoc] at h
    exact (ValueType.bracketed_append_inj h).1.symm

end Signature

/-! ## 3. Errors that show two signatures -/

namespace RuntimeError

/-- The two signatures that an error shows side by side. -/
def compared? : RuntimeError → Option (Signature × Signature)
  | .duplicateImport _ _ existing requested => some (existing, requested)
  | .signatureMismatch _ _ expected provided => some (expected, provided)
  | _ => none

/-- If the error shows two signatures, then by two different texts. -/
def TellsApart (e : RuntimeError) : Prop :=
  ∀ a b, e.compared? = some (a, b) →
    a.text ≠ b.text ∧ ∃ before between, e.message = before ++ a.text ++ between ++ b.text

theorem TellsApart.of_none {e : RuntimeError} (h : e.compared? = none) : e.TellsApart := by
  intro a b hab
  rw [h] at hab
  cases hab

theorem TellsApart.of_ne {e : RuntimeError} {a b : Signature} (he : e.compared? = some (a, b)) (hne : a ≠ b) :
    e.TellsApart := by
  intro a' b' hab
  rw [he] at hab
  cases hab
  refine ⟨fun htext => hne (Signature.text_inj.mp htext), ?_⟩
  cases e with
  | duplicateImport | signatureMismatch =>
    cases he
    exact ⟨_, _, rfl⟩
  | _ => cases he

end RuntimeError

theorem Registry.registerFunction_tellsApart {r : Registry σ} {space name : String} {f : HostFunction σ}
    {e : RuntimeError} (h : (r.registerFunction space name f).2 = .error e) : e.TellsApart := by
  unfold registerFunction at h
  dsimp only at h
  split at h
  · cases h
  · split at h
    · cases h
    · rename_i hne
      cases h
      exact .of_ne rfl hne

/-- Registrations end at the first that is refused, so their error is that of one registration. -/
theorem Registry.registerAll_tellsApart {e : RuntimeError} : ∀ {es : List (Entry σ)} {r : Registry σ},
    (r.registerAll es).2 = .error e → e.TellsApart
  | [], _, h => by cases h
  | c :: cs, r, h => by
      unfold registerAll at h
      split at h
      · exact registerAll_tellsApart h
      · rename_i err hc
        cases h
        exact registerFunction_tellsApart (congrArg Prod.snd hc)

theorem importFault_tellsApart {r : Registry σ} {d : ImportDeclaration} (h : ¬ Resolvable r d) :
    (importFault r d).TellsApart := by
  unfold importFault
  split
  · rename_i declared f hkind hlookup
    refine .of_ne rfl ?_
    rintro rfl
    exact h ⟨f, hlookup, hkind⟩
  · exact .of_none rfl

theorem resolveImports_tellsApart {m : Module} {r : Registry σ} {e : RuntimeError}
    (h : resolveImports m r = .error e) : e.TellsApart := by
  obtain ⟨_, d, _, -, -, hd, rfl⟩ := (resolveAll_error_iff r m.imports e).mp h
  exact importFault_tellsApart hd

theorem instantiate_tellsApart {m : Module} {r : Registry σ} {w : σ} {e : RuntimeError}
    (h : (instantiate m r w).1 = .error e) : e.TellsApart := by
  cases hb : resolveImports m r with
  | error f =>
    rw [(instantiate_of_resolve_error hb w).1] at h
    cases h
    exact resolveImports_tellsApart hb
  | ok bs =>
    obtain ⟨fault, -, rfl⟩ := (instantiateBy_error_iff hb).mp (Prod.ext (instantiate_eq m r w ▸ h) rfl)
    refine .of_none ?_
    unfold creationError
    split <;> rfl

/-! ## 4. Errors that show a signature and values -/

/-- The text of a signature, and of values that do not fit it. They differ in the part for the parameters. -/
structure Misfit (s : Signature) (args : List Value) (expected actual : String) : Prop where
  params : bracketed s.params ≠ actual
  begins : ¬ ∃ rest, expected = actual ++ " -> " ++ rest
  shownSignature : expected = s.text
  shownValues : actual = Value.describe args

theorem misfit_of_accepts {s : Signature} {args : List Value} (h : s.accepts args = false) :
    Misfit s args s.text (Value.describe args) where
  params := by
    intro heq
    have haccepts := (s.accepts_iff_begins args).mpr ⟨Signature.resultsText s.results, by
      rw [← heq, Signature.text_eq, String.append_assoc]⟩
    rw [h] at haccepts
    cases haccepts
  begins := by
    rw [← s.accepts_iff_begins, h]
    exact Bool.false_ne_true
  shownSignature := rfl
  shownValues := rfl

theorem Instance.invoke_misfit {i : Instance σ} {name : String} {args : List Value} {w : σ}
    {n expected actual : String}
    (h : (i.invoke name args w).1 = .error (.arityOrTypeMismatch n expected actual)) :
    n = name ∧ ∃ s, i.exportSignature name = .ok s ∧ Misfit s args expected actual := by
  rcases invoke_error h with hrefused | ⟨fault, hfault⟩
  · cases hs : i.exportSignature name with
    | error e =>
      rw [admitCall_of_error hs] at hrefused
      cases hrefused
      rcases exportSignature_error hs with hother | ⟨_, hother⟩ <;> cases hother
    | ok s =>
      unfold admitCall at hrefused
      rw [hs] at hrefused
      dsimp only [bind, Except.bind] at hrefused
      split at hrefused
      · cases hrefused
      · split at hrefused
        · split at hrefused <;> cases hrefused
        · rename_i haccepts
          cases hrefused
          exact ⟨rfl, s, rfl, misfit_of_accepts (Bool.not_eq_true _ ▸ haccepts)⟩
  · cases hfault

theorem HostFunction.call_misfit {f : HostFunction σ} {label : String} {args : List Value} {w : σ}
    {n expected actual : String} (h : (f.call label args w).1 = .error (.invalidArguments n expected actual)) :
    (f.run args w).1 = .error (.invalidArguments n expected actual) ∨
      n = label ∧ Misfit f.signature args expected actual := by
  unfold call at h
  split at h
  · left
    rcases hrun : f.run args w with ⟨r, w'⟩
    rw [hrun] at h
    cases r with
    | error e => exact h
    | ok vs =>
      dsimp only [Except.bind, checkResults] at h
      split at h <;> cases h
  · rename_i haccepts
    cases h
    exact .inr ⟨rfl, misfit_of_accepts (Bool.not_eq_true _ ▸ haccepts)⟩

/-! ## 5. The law -/

/-- What the texts of signatures tell, by themselves and in errors. -/
structure SignaturesTold (σ : Type) : Prop where
  /-- A signature is known from its text. -/
  identified : ∀ a b : Signature, a.text = b.text ↔ a = b
  /-- The values that fit a signature are those whose description begins its text. -/
  fitting : ∀ (s : Signature) (vs : List Value),
    s.accepts vs = true ↔ ∃ rest, s.text = Value.describe vs ++ " -> " ++ rest
  /-- A refused registration shows two texts, be it one by itself or one of several. -/
  registered : (∀ (r : Registry σ) space name f e,
      (r.registerFunction space name f).2 = .error e → e.TellsApart) ∧
    ∀ (r : Registry σ) es e, (r.registerAll es).2 = .error e → e.TellsApart
  /-- So does an import of another signature, looked for by itself or to make an instance. -/
  resolved : ∀ (m : Module) (r : Registry σ) e,
    (resolveImports m r = .error e → e.TellsApart) ∧
      ∀ w, (instantiate m r w).1 = .error e → e.TellsApart
  /-- A call of an export with arguments that do not fit shows the signature of the export and the arguments. -/
  invoked : ∀ (i : Instance σ) name args w n expected actual,
    (i.invoke name args w).1 = .error (.arityOrTypeMismatch n expected actual) →
      n = name ∧ ∃ s, i.exportSignature name = .ok s ∧ Misfit s args expected actual
  /-- So does a call of a host function, unless the function makes such an error up. -/
  called : ∀ (f : HostFunction σ) label args w n expected actual,
    (f.call label args w).1 = .error (.invalidArguments n expected actual) →
      (f.run args w).1 = .error (.invalidArguments n expected actual) ∨
        n = label ∧ Misfit f.signature args expected actual

/-- **Signatures are told apart by their texts**, also in every error that shows one. -/
theorem signaturesTold (σ : Type) : SignaturesTold σ where
  identified _ _ := Signature.text_inj
  fitting s vs := s.accepts_iff_begins vs
  registered :=
    ⟨fun _ _ _ _ _ h => Registry.registerFunction_tellsApart h, fun _ _ _ h => Registry.registerAll_tellsApart h⟩
  resolved _ _ _ := ⟨resolveImports_tellsApart, fun _ h => instantiate_tellsApart h⟩
  invoked _ _ _ _ _ _ _ h := Instance.invoke_misfit h
  called _ _ _ _ _ _ _ h := HostFunction.call_misfit h

end Embedder
