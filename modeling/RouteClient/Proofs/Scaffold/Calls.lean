import RouteClient.Proofs.Files.Tree
import RouteClient.Proofs.Scaffold.Name

namespace RouteClient.Scaffold

open Files.Tree

variable {σ : Type}

def treeAfter (directory : List String) (tree : Files.Tree σ) (calls : List (String × Files.Path)) :
    Files.Tree σ :=
  calls.foldl (fun t call ↦ (create t directory call.1 call.2).2) tree

/-- A call has added the file of a name to a directory, whose place is `above`. -/
structure Makes (directory : List String) (name : String) (dir : Files.Path) (above : List String)
    (created : Created) (s t : Files.Tree σ) : Prop where
  className : Scaffold.className name = .ok created.className
  path : created.path = dir.child (fileName name)
  located : t.locate directory dir = .ok above
  within : t.hasDirectory above
  absent : s.entry? (above ++ [fileName name]) = none
  written : Written directory created.path (template created.className) (above ++ [fileName name])
    s t

variable {s t u : Files.Tree σ} {directory above place : List String} {dir : Files.Path}
  {name : String} {created : Created}

theorem parent_child (dir : Files.Path) (name : String) : (dir.child name).parent = dir := by
  unfold Files.Path.parent Files.Path.child
  rw [List.dropLast_concat]

theorem createIn_cases {className : String} (made : Bool) (hshort : isLongPath dir = false)
    (hname : Scaffold.className name = .ok className) (hprepared : Prepared directory dir s t) :
    (∃ f, createIn t directory dir name className made = (.error f, t)) ∨
      ∃ created u above, createIn t directory dir name className made = (.ok created, u) ∧
        Makes directory name dir above created s u := by
  unfold createIn
  dsimp only
  split
  · exact .inl ⟨_, rfl⟩
  · exact .inl ⟨_, rfl⟩
  next hholds =>
  split
  · exact .inl ⟨_, rfl⟩
  next u hwrite =>
  rw [← parent_child dir (fileName name)] at hprepared
  -- The directories made on the way are no reason for the file to be there.
  obtain ⟨file, hmeans, hwritten⟩ := written_of_write hprepared hwrite
  have habsent : s.entry? file = none := by
    rw [← Option.not_isSome_iff_eq_none]
    intro hthere
    have hkept := hprepared.kept.there file hthere
    rw [hmeans.absent hholds] at hkept
    cases hkept
  obtain ⟨above, hwalk, habove, rfl⟩ := above_of_locate_child (fileName_ne_dots name) hwritten.located
  exact .inr ⟨_, u, above, rfl, hname, rfl, locate_eq_ok.2 ⟨hshort, hwalk⟩, habove,
    habsent, hwritten⟩

/-- A call fails and leaves at most new directories on the way to its own, or it makes its file. -/
theorem create_cases (s : Files.Tree σ) (directory : List String) (name : String)
    (dir : Files.Path) :
    (∃ f t, create s directory name dir = (.error f, t) ∧ Prepared directory dir s t) ∨
      ∃ created t above, create s directory name dir = (.ok created, t) ∧
        Makes directory name dir above created s t := by
  unfold create
  split
  · exact .inl ⟨_, s, rfl, .refl s⟩
  next className hname =>
  split
  · exact .inl ⟨_, s, rfl, .refl s⟩
  · next hdirectory =>
    have hshort := not_isLongPath_of_isDirectory hdirectory
    rcases createIn_cases false hshort hname (.refl s) with ⟨f, hfails⟩ | hmakes
    · exact .inl ⟨f, s, hfails, .refl s⟩
    · exact .inr hmakes
  · next hdirectory =>
    have hshort := not_isLongPath_of_isDirectory hdirectory
    have hprepared := prepared_makeDirectories s directory dir
    rcases hmade : s.makeDirectories directory dir with ⟨t, _ | obstacle⟩
    · rw [hmade] at hprepared
      rcases createIn_cases true hshort hname hprepared with ⟨f, hfails⟩ | hmakes
      · exact .inl ⟨f, t, hfails, hprepared⟩
      · exact .inr hmakes
    · rw [hmade] at hprepared
      exact .inl ⟨_, t, rfl, hprepared⟩

theorem Makes.extends (h : Makes directory name dir above created s t) : Extends s t :=
  h.written.extends h.absent

theorem extends_create (s : Files.Tree σ) (directory : List String) (name : String)
    (dir : Files.Path) : Extends s (create s directory name dir).2 := by
  rcases create_cases s directory name dir with ⟨f, t, hcreate, hprepared⟩ |
    ⟨created, t, above, hcreate, hmakes⟩
  · rw [hcreate]
    exact hprepared.extends
  · rw [hcreate]
    exact hmakes.extends

theorem makes_of_create (h : (create s directory name dir).1 = .ok created) :
    ∃ above, Makes directory name dir above created s (create s directory name dir).2 := by
  rcases create_cases s directory name dir with ⟨f, t, hcreate, _⟩ |
    ⟨made, t, above, hcreate, hmakes⟩
  · rw [hcreate] at h
    cases h
  · rw [hcreate] at h ⊢
    cases h
    exact ⟨above, hmakes⟩

theorem Makes.located_later (h : Makes directory name dir above created s t)
    (hlater : Extends t u) :
    u.locate directory (dir.child (fileName name)) = .ok (above ++ [fileName name]) := by
  have hlocated := h.written.located
  rw [h.path] at hlocated
  obtain ⟨hshort, hwalk⟩ := locate_eq_ok.1 hlocated
  exact locate_eq_ok.2 ⟨hshort, hlater.kept.walk hwalk⟩

/-- A handler is not made where its file is, however the directory is written. -/
theorem create_of_there {className : String} (hname : Scaffold.className name = .ok className)
    (hlocated : t.locate directory (dir.child (fileName name)) = .ok place)
    (hthere : (t.entry? place).isSome) :
    (create t directory name dir).1 =
      .error (.refused (.routeFileExists (dir.child (fileName name)))) := by
  obtain ⟨above, hwalk, habove, rfl⟩ := above_of_locate_child (fileName_ne_dots name) hlocated
  have hshort := not_isLongPath_of_child (locate_eq_ok.1 hlocated).1
  have hdirectory : t.isDirectory directory dir = .ok true := by
    rw [isDirectory_of_locate (locate_eq_ok.2 ⟨hshort, hwalk⟩), habove]
  have hholds : t.holds directory (dir.child (fileName name)) = .ok true := by
    rw [holds_of_locate hlocated, hthere]
  unfold create createIn
  rw [hname, hdirectory]
  dsimp only
  rw [hholds]

theorem treeAfter_append (tree : Files.Tree σ) (front back : List (String × Files.Path)) :
    treeAfter directory tree (front ++ back) =
      treeAfter directory (treeAfter directory tree front) back := List.foldl_append

theorem extends_treeAfter (tree : Files.Tree σ) (directory : List String)
    (calls : List (String × Files.Path)) : Extends tree (treeAfter directory tree calls) := by
  induction calls generalizing tree with
  | nil => exact .refl tree
  | cons call calls ih => exact (extends_create tree directory call.1 call.2).trans (ih _)

/-- Two accepted names never mean the same file, however its directory is written. -/
theorem name_of_locate {dir' : Files.Path} {other className otherClass : String}
    (hname : Scaffold.className name = .ok className)
    (hother : Scaffold.className other = .ok otherClass)
    (h : s.locate directory (dir.child (fileName name)) = .ok place)
    (h' : t.locate directory (dir'.child (fileName other)) = .ok place) : name = other := by
  obtain ⟨above, _, _, rfl⟩ := above_of_locate_child (fileName_ne_dots name) h
  obtain ⟨above', _, _, hplace⟩ := above_of_locate_child (fileName_ne_dots other) h'
  obtain ⟨-, hfiles⟩ := List.append_inj' hplace rfl
  exact fileName_injective (not_underscore_of_className hname) (not_underscore_of_className hother)
    (List.singleton_inj.1 hfiles)

/-- Of any calls on a tree, none changes or removes what is there. One that succeeds adds the file
of its name to its directory, where nothing was before, with the template of its class, and besides
only directories on the way; the file keeps its text to the end. A later call with the name is
refused, if its directory is the same or one where the name means the same file. Different accepted
names never mean the same file. -/
theorem scaffolded_files_kept (tree : Files.Tree σ) (directory : List String)
    (calls : List (String × Files.Path)) :
    (∀ front name dir back, calls = front ++ (name, dir) :: back →
      let before := treeAfter directory tree front
      let after := (create before directory name dir).2
      Extends before after ∧
      ∀ created, (create before directory name dir).1 = .ok created →
        ∃ above, Makes directory name dir above created before after ∧
          Files.Tree.entry? (treeAfter directory tree calls) (above ++ [fileName name]) =
            some (.file (.text (template created.className))) ∧
          ∀ middle dir' rest, back = middle ++ (name, dir') :: rest →
            let later := treeAfter directory after middle
            (dir' = dir ∨ Files.Tree.locate later directory (dir'.child (fileName name)) =
              .ok (above ++ [fileName name])) →
            (create later directory name dir').1 =
              .error (.refused (.routeFileExists (dir'.child (fileName name))))) ∧
    ∀ (s t : Files.Tree σ) (dir dir' : Files.Path) (name other className otherClass : String)
      (place : List String),
      Scaffold.className name = .ok className → Scaffold.className other = .ok otherClass →
      name ≠ other → s.locate directory (dir.child (fileName name)) = .ok place →
      t.locate directory (dir'.child (fileName other)) ≠ .ok place := by
  refine ⟨?_, fun s t dir dir' name other _ _ place hname hother hne h h' ↦
    hne (name_of_locate hname hother h h')⟩
  intro front name dir back hcalls before after
  refine ⟨extends_create before directory name dir, fun created hcreated ↦ ?_⟩
  obtain ⟨above, hmakes⟩ := makes_of_create hcreated
  have hend : treeAfter directory tree calls = treeAfter directory after back := by
    rw [hcalls, treeAfter_append]
    rfl
  refine ⟨above, hmakes, ?_, ?_⟩
  · rw [hend]
    exact extends_treeAfter after directory back _ _ hmakes.written.content
  · intro middle dir' rest _ later hsame
    have hlater : Extends after later := extends_treeAfter after directory middle
    have hlocated : later.locate directory (dir'.child (fileName name)) =
        .ok (above ++ [fileName name]) := by
      rcases hsame with rfl | hlocated
      · exact hmakes.located_later hlater
      · exact hlocated
    have hfile := hlater _ _ hmakes.written.content
    exact create_of_there hmakes.className hlocated (Option.isSome_of_eq_some hfile)

/-- In the last call, the directory is written another way. -/
theorem scaffolded_files_kept_login :
    let routes : Files.Path := .ofString "app/routes"
    let back : Files.Path := .ofString "app/../app/routes"
    let tree : Files.Tree Unit := {}
    let made := (create tree [] "user-login" routes).2
    (create tree [] "user-login" routes).1 =
        .ok ⟨"UserLoginRoute", .ofString "app/routes/user_login.py", true⟩ ∧
      Files.Tree.entry? (treeAfter [] tree [("user-login", routes), ("user", routes),
          ("user-login", routes), ("user-login", back)]) ["app", "routes", "user_login.py"] =
        some (.file (.text (template "UserLoginRoute"))) ∧
      (create (treeAfter [] made [("user", routes)]) [] "user-login" routes).1 =
        .error (.refused (.routeFileExists (routes.child "user_login.py"))) ∧
      (create (treeAfter [] made [("user", routes), ("user-login", routes)]) [] "user-login" back).1 =
        .error (.refused (.routeFileExists (back.child "user_login.py"))) ∧
      made.locate [] (back.child "user.py") ≠ .ok ["app", "routes", "user_login.py"] := by
  intro routes back tree made
  have hcreated : (create tree [] "user-login" routes).1 =
      .ok ⟨"UserLoginRoute", .ofString "app/routes/user_login.py", true⟩ := by
    decide +kernel
  have hroutes : made.locate [] routes = .ok ["app", "routes"] := by decide +kernel
  have hlogin : fileName "user-login" = "user_login.py" := by decide +kernel
  have huser : fileName "user" = "user.py" := by decide +kernel
  have hfile : made.locate [] (routes.child (fileName "user-login")) =
      .ok ["app", "routes", "user_login.py"] := by
    decide +kernel
  have hback : Files.Tree.locate (treeAfter [] made [("user", routes), ("user-login", routes)]) []
      (back.child "user_login.py") = .ok ["app", "routes", "user_login.py"] := by
    decide +kernel
  obtain ⟨hcalls, hnames⟩ := scaffolded_files_kept tree []
    [("user-login", routes), ("user", routes), ("user-login", routes), ("user-login", back)]
  obtain ⟨-, hsuccess⟩ := hcalls [] "user-login" routes _ rfl
  obtain ⟨above, hmakes, hkept, hrefused⟩ := hsuccess _ hcreated
  cases hmakes.located.symm.trans hroutes
  have hother := hnames made made routes back "user-login" "user" "UserLoginRoute" "UserRoute" _
    (by decide +kernel) (by decide +kernel) (by decide) hfile
  rw [hlogin] at hkept hrefused
  rw [huser] at hother
  exact ⟨hcreated, hkept, hrefused [("user", routes)] routes _ rfl (.inl rfl),
    hrefused [("user", routes), ("user-login", routes)] back [] rfl (.inr hback), hother⟩

end RouteClient.Scaffold
