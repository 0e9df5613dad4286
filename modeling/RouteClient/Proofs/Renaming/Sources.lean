import RouteClient.Project.Import
import RouteClient.Proofs.Renaming.Sessions

namespace RouteClient.Project

mutual

def ClassDecl.renamed (name : String → String) : ClassDecl → ClassDecl
  | ⟨ownName, kind, bases, isAbstract, moduleName, options, nested, attributes, members, fields,
      maker, constructor, methods⟩ =>
    ⟨ownName, kind, bases, isAbstract, moduleName.map name, options,
      ClassDecl.renamedAll name nested, attributes, members, fields, maker, constructor, methods⟩

def ClassDecl.renamedAll (name : String → String) : List ClassDecl → List ClassDecl
  | [] => []
  | decl :: rest => decl.renamed name :: ClassDecl.renamedAll name rest

end

def Statement.renamed (name : String → String) : Statement → Statement
  | .importFrom moduleName names => .importFrom (name moduleName) names
  | .declare decl => .declare (decl.renamed name)
  | statement => statement

def ModuleSource.renamed (name : String → String) (source : ModuleSource) : ModuleSource :=
  { source with body := source.body.map (·.renamed name) }

/-- Which directories correspond, where the modules of a package are looked for, or those of none. -/
abbrev Placement := Option String → List String → List String → Prop

def Import.missing (name : String) : Raised :=
  ⟨"ModuleNotFoundError", "No module named " ++ Text.Quoted.quoted name⟩

end RouteClient.Project

namespace RouteClient.Project.Renaming

variable (ρ : Renaming)

def ReadsPlainly (e : TypeExpr) : Prop :=
  (∀ n ∈ e.mentioned, ¬ρ.hidden n) ∧ ∀ t ∈ e.quoted, ρ.Quiet t

def QuietScalar (x : Scalar) : Prop := ∀ t, x = .text t → ρ.Quiet t

/-- An annotation is evaluated, or kept as a text. -/
def QuietHint (postponed : Bool) (e : TypeExpr) : Prop :=
  if postponed then ρ.Quiet e.text else ρ.ReadsPlainly e

def QuietParameters (postponed : Bool) (parameters : List ParameterDecl) : Prop :=
  ∀ p ∈ parameters, ∀ e ∈ p.hint, ρ.QuietHint postponed e

structure QuietBody (postponed : Bool) (decl : ClassDecl) : Prop where
  moduleName : ∀ n ∈ decl.moduleName, ρ.homes n
  bases : ∀ e ∈ decl.bases, ρ.ReadsPlainly e
  constants : ∀ a ∈ decl.attributes, ∀ x, a.2 = .constant x → ρ.QuietScalar x
  expressions : ∀ a ∈ decl.attributes, ∀ e, a.2 = .expression e → ρ.ReadsPlainly e
  hints : ∀ f ∈ decl.fields, ∀ e ∈ f.hint, ρ.QuietHint postponed e
  defaults : ∀ f ∈ decl.fields, ∀ x ∈ f.default, ρ.QuietScalar x
  maker : ∀ parameters ∈ decl.maker, ρ.QuietParameters postponed parameters
  constructor : ∀ parameters ∈ decl.constructor, ρ.QuietParameters postponed parameters
  parameters : ∀ m ∈ decl.methods, ρ.QuietParameters postponed m.parameters
  returns : ∀ m ∈ decl.methods, ∀ e ∈ m.returns, ρ.QuietHint postponed e

/-- No annotation, base or text of a class mentions a hidden name. -/
inductive QuietClass (postponed : Bool) : ClassDecl → Prop
  | intro {decl : ClassDecl} (body : ρ.QuietBody postponed decl)
      (nested : ∀ inner ∈ decl.nested, QuietClass postponed inner) : QuietClass postponed decl

/-- Errors of one kind that are about a module that is not there at the same time, and then about
the same one. -/
structure TakesRaised (r r' : Raised) : Prop where
  kind : r.kind = r'.kind
  missing : ∀ n, ρ.homes n → (r = Import.missing n ↔ r' = Import.missing (ρ.name n))

/-- A module of a package stays in it. -/
structure HoldsAlike (package name : String) : Prop where
  home : ρ.homes (package ++ "." ++ name)
  moved : ρ.name (package ++ "." ++ name) = ρ.name package ++ "." ++ name

def QuietStatement (postponed : Bool) : Statement → Prop
  | .importFrom moduleName names =>
    ρ.homes moduleName ∧ ∀ n ∈ names, ρ.HoldsAlike moduleName n.1
  | .assign _ e | .newType _ e => ρ.ReadsPlainly e
  | .delete _ => True
  | .raise kind text => ρ.TakesRaised (Import.raisedBy kind text) (Import.raisedBy kind text)
  | .declare decl => ρ.QuietClass postponed decl

inductive TakesContent : Files.Content Source → Files.Content Source → Prop
  | module {source : ModuleSource} (h : ∀ st ∈ source.body, ρ.QuietStatement source.postponed st) :
    TakesContent (.source (.module source)) (.source (.module (source.renamed ρ.name)))
  | table (source source' : TableSource) :
    TakesContent (.source (.table source)) (.source (.table source'))
  | text (text : String) : TakesContent (.text text) (.text text)

/-- What is found for a module of the given name. -/
inductive TakesFound (near : Placement) (name : String) : Import.Found → Import.Found → Prop
  | file (path path' : String) {content content' : Files.Content Source}
      {directories directories' : List String} (hcontent : ρ.TakesContent content content')
      (hdirectories : near (some name) directories directories') :
    TakesFound near name (.file path content directories) (.file path' content' directories')
  | directories {paths paths' : List String} (h : near (some name) paths paths') :
    TakesFound near name (.directories paths) (.directories paths')

/-- In directories that correspond, the same modules are found under their new names. -/
structure TakesTree (near : Placement) (tree tree' : Files.Tree Source) : Prop where
  find : ∀ n, ρ.homes n → ∀ directories directories',
    near (Import.splitName n).1 directories directories' →
    Option.Rel (ρ.TakesFound near n) (Import.find tree (Import.splitName n).2 directories)
      (Import.find tree' (Import.splitName (ρ.name n)).2 directories')
  isEmpty : ∀ package directories directories', near package directories directories' →
    directories.isEmpty = directories'.isEmpty
  none : ∀ n, near (some n) [] []

/-- A module stays in its package, and is a standard one or not. -/
structure KeepsPackages : Prop where
  package : ∀ n, ρ.homes n →
    (Import.splitName (ρ.name n)).1 = (Import.splitName n).1.map ρ.name
  packageHome : ∀ n, ρ.homes n → ∀ p ∈ (Import.splitName n).1, ρ.homes p
  last : ∀ n, ρ.homes n → (Import.splitName n).1.isSome →
    (Import.splitName (ρ.name n)).2 = (Import.splitName n).2
  standard : ∀ n, ρ.homes n → Standard.topNames.contains n = Standard.topNames.contains (ρ.name n)
  quoted : ∀ n m, ρ.homes n → ρ.homes m → (Text.Quoted.quoted n = Text.Quoted.quoted m ↔
    Text.Quoted.quoted (ρ.name n) = Text.Quoted.quoted (ρ.name m))

variable {ρ}

theorem TakesRaised.of_ne {r r' : Raised} (h : r.kind = r'.kind) (hr : ∀ n, r ≠ Import.missing n)
    (hr' : ∀ n, r' ≠ Import.missing n) : ρ.TakesRaised r r' :=
  ⟨h, fun n _ ↦ iff_of_false (hr n) (hr' _)⟩

theorem TakesRaised.of_kin {r r' : Raised} (h : r.Kin r') : ρ.TakesRaised r r' := by
  have hleft : ∀ n, r ≠ Import.missing n := by
    rintro n rfl
    exact h.found rfl
  have hright : ∀ n, r' ≠ Import.missing n := by
    rintro n rfl
    exact h.found h.kind
  exact .of_ne h.kind hleft hright

/-- A message that names a module as missing ends with a quote. -/
theorem ne_missing (start n : String) :
    (⟨"ModuleNotFoundError", start ++ " is not a package"⟩ : Raised) ≠ Import.missing n := by
  intro h
  have hlast := congrArg (fun r : Raised ↦ r.text.toList.getLast?) h
  simp only [Import.missing, Text.Quoted.quoted, String.toList_append, String.toList_ofList,
    List.getLast?_append, List.getLast?_cons] at hlast
  have hquote : Text.Quoted.quoteFor n.toList ≠ 'e' := by
    unfold Text.Quoted.quoteFor
    split <;> decide
  exact hquote (by simpa using hlast.symm)

theorem missing_inj {n m : String} :
    Import.missing n = Import.missing m ↔ Text.Quoted.quoted n = Text.Quoted.quoted m := by
  unfold Import.missing
  rw [Raised.mk.injEq, String.append_right_inj]
  exact and_iff_right rfl

theorem KeepsPackages.missing (h : ρ.KeepsPackages) {n : String} (hn : ρ.homes n) :
    ρ.TakesRaised (Import.missing n) (Import.missing (ρ.name n)) :=
  ⟨rfl, fun m hm ↦ by rw [missing_inj, missing_inj, h.quoted n m hn hm]⟩

end RouteClient.Project.Renaming
