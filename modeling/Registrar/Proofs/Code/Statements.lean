import Registrar.Code.Registrations
import Registrar.Proofs.Lists

/-!
# Reading registration statements

The statements that register a service show all of its descriptor. Names of types may hold nearly
any characters, blanks and brackets of generic arguments among them; only the opening parenthesis
ends them, and a line end would end the statement.

* `eq_of_registerLine_eq`, `eq_of_construction_eq` : a statement is read in one way.
* `step_registration` : the statements are what the writer emits for a descriptor.
* `eq_of_statements_append_eq` : the statements at the front tell the descriptor.
-/

namespace Registrar

/-- A name that stands in a statement without ending it. -/
def TypeName.IsPlain (name : TypeName) : Prop := '(' ∉ name.text.toList ∧ '\n' ∉ name.text.toList

theorem TypeName.eq_of_toList_eq {a b : TypeName} (h : a.text.toList = b.text.toList) : a = b := by
  cases a
  cases b
  exact congrArg TypeName.mk (String.toList_inj.mp h)

/-- All names of a descriptor can stand in statements. -/
structure Descriptor.IsPlain (d : Descriptor) : Prop where
  implementation : d.implementation.IsPlain
  interface : d.interface.IsPlain
  parameters : ∀ p ∈ d.parameters, p.IsPlain

instance (name : TypeName) : Decidable name.IsPlain :=
  inferInstanceAs (Decidable ('(' ∉ name.text.toList ∧ '\n' ∉ name.text.toList))

instance (d : Descriptor) : Decidable d.IsPlain :=
  decidable_of_iff
    (d.implementation.IsPlain ∧ d.interface.IsPlain ∧ ∀ p ∈ d.parameters, p.IsPlain)
    ⟨fun h => ⟨h.1, h.2.1, h.2.2⟩, fun h => ⟨h.implementation, h.interface, h.parameters⟩⟩

namespace Code

/-! ## §1 — the parts of a statement -/

/-- The method that registers services of a lifetime. -/
def keyword : Lifetime → String
  | .transient => "Register"
  | .perScope => "RegisterScoped"
  | .singleton => "RegisterSingleton"

/-- The statement that registers a service. -/
def registerLine (d : Descriptor) (argument : String) : String :=
  keyword d.lifetime ++ "<" ++ d.interface.text ++ ">(" ++ argument ++ ");"

/-- The statement that builds a singleton. -/
def declareLine (name : String) (d : Descriptor) : String :=
  "var " ++ name ++ " = " ++ construction d ++ ";"

/-- All statements for a service; `name` is the local name, if one is needed. -/
def statements (name : String) (d : Descriptor) : List String :=
  if d.lifetime.isEager then [declareLine name d, registerLine d name]
  else [registerLine d ("() => " ++ construction d)]

/-- The local name for a service. -/
def localName (names : Names) (d : Descriptor) : String :=
  names.fresh ("instance_" ++ mangle d.interface.text)

/-- The names that are taken after the statements of a service. -/
def namesAfter (names : Names) (d : Descriptor) : Names :=
  if d.lifetime.isEager then names.take (localName names d) else names

/-- **The statements are what the writer emits for a descriptor**, and the name that they use is all
that it takes. One case for each lifetime. -/
theorem step_registration (w : Writer) (d : Descriptor) :
    w.step (registration d) = ({ w with names := namesAfter w.names d },
      (statements (localName w.names d) d).map (⟨w.depth, ·⟩)) := by
  have hlambda : ∀ start : String,
      start ++ d.interface.text ++ ">(() => " ++ construction d ++ ");" =
        start ++ d.interface.text ++ ">(" ++ ("() => " ++ construction d) ++ ");" := by
    intro start
    rw [← String.toList_inj]
    simp
  -- the writer has one text for a lazy service, here it is cut in front of the lambda
  cases hlifetime : d.lifetime with
  | transient =>
    simp only [registration, namesAfter, statements, registerLine, hlifetime, Lifetime.isEager,
      keyword, Writer.step, hlambda]
    rfl
  | perScope =>
    simp only [registration, namesAfter, statements, registerLine, hlifetime, Lifetime.isEager,
      keyword, Writer.step, hlambda]
    rfl
  | singleton =>
    simp only [registration, namesAfter, statements, registerLine, hlifetime, Lifetime.isEager,
      keyword, Writer.step]
    rfl

/-! ## §2 — reading a statement -/

theorem keyword_inj {l l' : Lifetime} (h : keyword l = keyword l') : l = l' := by
  cases l <;> cases l' <;> first | rfl | exact absurd h (by decide)

theorem not_mem_keyword (l : Lifetime) : '<' ∉ (keyword l).toList ∧ '(' ∉ (keyword l).toList := by
  cases l <;> decide

/-- A registration is cut at its first parenthesis, and what is before it at its first bracket. -/
theorem eq_of_registerLine_eq {d d' : Descriptor} {a a' : String} (hd : d.interface.IsPlain)
    (hd' : d'.interface.IsPlain) (h : registerLine d a = registerLine d' a') :
    d.lifetime = d'.lifetime ∧ d.interface = d'.interface ∧ a = a' := by
  have hfront : ∀ (e : Descriptor), e.interface.IsPlain →
      '(' ∉ (keyword e.lifetime).toList ++ '<' :: (e.interface.text.toList ++ ['>']) := by
    intro e he
    simp [(not_mem_keyword e.lifetime).2, he.1]
  -- the bracket after the keyword and the parenthesis after the name are the places to cut at
  have htext : ∀ (e : Descriptor) (b : String), (registerLine e b).toList =
      ((keyword e.lifetime).toList ++ '<' :: (e.interface.text.toList ++ ['>'])) ++
        '(' :: (b.toList ++ [')', ';']) := by
    intro e b
    simp [registerLine]
  rw [← String.toList_inj, htext, htext] at h
  obtain ⟨hbefore, hafter⟩ := eq_of_append_cons_eq (hfront d hd) (hfront d' hd') h
  obtain ⟨hkeyword, hinterface⟩ := eq_of_append_cons_eq (not_mem_keyword d.lifetime).1
    (not_mem_keyword d'.lifetime).1 hbefore
  exact ⟨keyword_inj (String.toList_inj.mp hkeyword),
    TypeName.eq_of_toList_eq (List.append_cancel_right hinterface),
    String.toList_inj.mp (List.append_cancel_right hafter)⟩

/-- How a parameter is resolved, up to the parenthesis. -/
def resolveStart (p : TypeName) : String := "Resolve<" ++ p.text ++ ">"

theorem not_mem_resolveStart {p : TypeName} (h : p.IsPlain) : '(' ∉ (resolveStart p).toList := by
  simp [resolveStart, h.1]

/-- What a parameter is resolved by tells its type. -/
theorem eq_of_resolveStart_eq {p q : TypeName}
    (h : (resolveStart p).toList = (resolveStart q).toList) : p = q := by
  have htext : ∀ r : TypeName, (resolveStart r).toList =
      "Resolve<".toList ++ (r.text.toList ++ ['>']) := by
    intro r
    simp [resolveStart]
  rw [htext, htext] at h
  exact TypeName.eq_of_toList_eq (List.append_cancel_right (List.append_cancel_left h))

/-- The parameters after the first. -/
def moreArguments (ps : List TypeName) : List Char :=
  ps.flatMap fun p => ',' :: ' ' :: (resolveStart p).toList ++ ['(', ')']

theorem moreArguments_cons (p : TypeName) (ps : List TypeName) :
    moreArguments (p :: ps) =
      (',' :: ' ' :: (resolveStart p).toList) ++ '(' :: ')' :: moreArguments ps := by
  simp [moreArguments]

/-- Each parameter is cut at its parenthesis. Induction on the parameters. -/
theorem eq_of_moreArguments_eq {ps qs : List TypeName} (hps : ∀ p ∈ ps, p.IsPlain)
    (hqs : ∀ q ∈ qs, q.IsPlain) (h : moreArguments ps = moreArguments qs) : ps = qs := by
  have hcut : ∀ {p : TypeName}, p.IsPlain → '(' ∉ ',' :: ' ' :: (resolveStart p).toList := by
    intro p hp
    simp [not_mem_resolveStart hp]
  induction ps generalizing qs with
  | nil =>
    cases qs with
    | nil => rfl
    | cons q qs => exact absurd h (by simp [moreArguments])
  | cons p ps ih =>
    cases qs with
    | nil => exact absurd h (by simp [moreArguments])
    | cons q qs =>
      obtain ⟨hp, hps'⟩ := List.forall_mem_cons.mp hps
      obtain ⟨hq, hqs'⟩ := List.forall_mem_cons.mp hqs
      -- the first parenthesis ends the first parameter on both sides
      rw [moreArguments_cons, moreArguments_cons] at h
      obtain ⟨hfirst, hmore⟩ := eq_of_append_cons_eq (hcut hp) (hcut hq) h
      obtain rfl := eq_of_resolveStart_eq (List.cons.inj (List.cons.inj hfirst).2).2
      exact congrArg (p :: ·) (ih hps' hqs' (List.cons.inj hmore).2)

/-- All parameters, as the constructor is given them. -/
def arguments (ps : List TypeName) : String :=
  ", ".intercalate (ps.map fun p => "Resolve<" ++ p.text ++ ">()")

/-- The first parameter stands without a comma, and the others are those that follow one. -/
theorem arguments_cons (p : TypeName) (ps : List TypeName) :
    (arguments (p :: ps)).toList = (resolveStart p).toList ++ '(' :: ')' :: moreArguments ps := by
  induction ps generalizing p with
  | nil => simp [arguments, resolveStart, moreArguments]
  | cons q ps ih =>
    have hsplit : (arguments (p :: q :: ps)).toList =
        (resolveStart p).toList ++ '(' :: ')' :: ',' :: ' ' :: (arguments (q :: ps)).toList := by
      simp [arguments, resolveStart]
    rw [hsplit, ih, moreArguments_cons]
    rfl

/-- **The arguments of a constructor tell its parameters**, also that there are none. -/
theorem eq_of_arguments_eq {ps qs : List TypeName} (hps : ∀ p ∈ ps, p.IsPlain)
    (hqs : ∀ q ∈ qs, q.IsPlain) (h : arguments ps = arguments qs) : ps = qs := by
  rw [← String.toList_inj] at h
  -- an empty list of arguments has no characters, and any other one begins with a parameter
  cases ps with
  | nil =>
    cases qs with
    | nil => rfl
    | cons q qs =>
      rw [arguments_cons] at h
      exact absurd h (by simp [arguments])
  | cons p ps =>
    cases qs with
    | nil =>
      rw [arguments_cons] at h
      exact absurd h (by simp [arguments])
    | cons q qs =>
      obtain ⟨hp, hps'⟩ := List.forall_mem_cons.mp hps
      obtain ⟨hq, hqs'⟩ := List.forall_mem_cons.mp hqs
      rw [arguments_cons, arguments_cons] at h
      obtain ⟨hfirst, hmore⟩ :=
        eq_of_append_cons_eq (not_mem_resolveStart hp) (not_mem_resolveStart hq) h
      obtain rfl := eq_of_resolveStart_eq hfirst
      exact congrArg (p :: ·) (eq_of_moreArguments_eq hps' hqs' (List.cons.inj hmore).2)

theorem construction_eq (d : Descriptor) :
    construction d = "new " ++ d.implementation.text ++ "(" ++ arguments d.parameters ++ ")" := rfl

/-- **What builds a service tells its implementation and its parameters.** It is cut at its first
parenthesis. -/
theorem eq_of_construction_eq {d d' : Descriptor} (hd : d.IsPlain) (hd' : d'.IsPlain)
    (h : construction d = construction d') :
    d.implementation = d'.implementation ∧ d.parameters = d'.parameters := by
  have htext : ∀ e : Descriptor, (construction e).toList =
      "new ".toList ++ (e.implementation.text.toList ++
        '(' :: ((arguments e.parameters).toList ++ [')'])) := by
    intro e
    simp [construction_eq]
  rw [← String.toList_inj, htext, htext] at h
  -- the parenthesis of the constructor is the first one, as a plain name has none
  obtain ⟨himplementation, hmore⟩ :=
    eq_of_append_cons_eq hd.implementation.1 hd'.implementation.1 (List.append_cancel_left h)
  have harguments := String.toList_inj.mp (List.append_cancel_right hmore)
  exact ⟨TypeName.eq_of_toList_eq himplementation,
    eq_of_arguments_eq hd.parameters hd'.parameters harguments⟩

/-- The declaration of a local name is cut at the blank after the name. -/
theorem eq_of_declareLine_eq {d d' : Descriptor} {name name' : String} (hname : ' ' ∉ name.toList)
    (hname' : ' ' ∉ name'.toList) (h : declareLine name d = declareLine name' d') :
    name = name' ∧ construction d = construction d' := by
  have htext : ∀ (n : String) (e : Descriptor), (declareLine n e).toList =
      "var ".toList ++
        (n.toList ++ ' ' :: ("= ".toList ++ ((construction e).toList ++ [';']))) := by
    intro n e
    simp [declareLine]
  rw [← String.toList_inj, htext, htext] at h
  obtain ⟨hn, hmore⟩ := eq_of_append_cons_eq hname hname' (List.append_cancel_left h)
  have hconstruction := List.append_cancel_right (List.append_cancel_left hmore)
  exact ⟨String.toList_inj.mp hn, String.toList_inj.mp hconstruction⟩

/-- No declaration is a registration. -/
theorem declareLine_ne_registerLine (name a : String) (d d' : Descriptor) :
    declareLine name d ≠ registerLine d' a := by
  intro h
  -- every method that registers begins with the same letter, and a declaration with another one
  have hfirst : ∀ l : Lifetime, (keyword l).toList.head? = some 'R' := by
    intro l
    cases l <;> decide
  have hhead : (declareLine name d).toList.head? = (registerLine d' a).toList.head? := by rw [h]
  have hkeyword : (registerLine d' a).toList.head? = some 'R' := by
    simp [registerLine, List.head?_append, hfirst]
  rw [hkeyword] at hhead
  exact absurd hhead (by simp [declareLine])

/-- **The statements at the front tell the descriptor.** -/
theorem eq_of_statements_append_eq {d d' : Descriptor} (hd : d.IsPlain) (hd' : d'.IsPlain)
    {name name' : String} (hname : ' ' ∉ name.toList) (hname' : ' ' ∉ name'.toList)
    {more more' : List String}
    (h : statements name d ++ more = statements name' d' ++ more') : d = d' ∧ more = more' := by
  have hext : d.lifetime = d'.lifetime → d.interface = d'.interface →
      construction d = construction d' → d = d' := by
    intro hlifetime hinterface hconstruction
    obtain ⟨himplementation, hparameters⟩ := eq_of_construction_eq hd hd' hconstruction
    cases d
    cases d'
    simp_all
  -- a singleton starts with a declaration, everything else with its registration
  unfold statements at h
  cases he : d.lifetime.isEager with
  | true =>
    rw [he, if_pos rfl] at h
    cases he' : d'.lifetime.isEager with
    | true =>
      rw [he', if_pos rfl] at h
      obtain ⟨hdeclares, hmore⟩ := List.cons.inj h
      obtain ⟨hregisters, hmore⟩ := List.cons.inj hmore
      obtain ⟨-, hconstruction⟩ := eq_of_declareLine_eq hname hname' hdeclares
      obtain ⟨hlifetime, hinterface, -⟩ :=
        eq_of_registerLine_eq hd.interface hd'.interface hregisters
      exact ⟨hext hlifetime hinterface hconstruction, hmore⟩
    | false =>
      rw [he', if_neg Bool.false_ne_true] at h
      exact absurd (List.cons.inj h).1 (declareLine_ne_registerLine _ _ _ _)
  | false =>
    rw [he, if_neg Bool.false_ne_true] at h
    cases he' : d'.lifetime.isEager with
    | true =>
      rw [he', if_pos rfl] at h
      exact absurd (List.cons.inj h).1.symm (declareLine_ne_registerLine _ _ _ _)
    | false =>
      rw [he', if_neg Bool.false_ne_true] at h
      obtain ⟨hregisters, hmore⟩ := List.cons.inj h
      obtain ⟨hlifetime, hinterface, hlambda⟩ :=
        eq_of_registerLine_eq hd.interface hd'.interface hregisters
      exact ⟨hext hlifetime hinterface ((String.append_right_inj _).mp hlambda), hmore⟩

end Code

end Registrar
