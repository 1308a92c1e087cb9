import WireScript.Proofs.Generator.Placement

/-! # Joining a name

A name that stands for an entry of its directory becomes the last step of every path it
is joined to: of an empty path, of one that ends in separators, of the root and of a path
that goes up. An accepted configuration has such a name, so its output root is always a
directory of its own inside the protocol path.
-/

namespace WireScript

namespace Path

variable {name : String}

/-- A name joined to a path stands behind it, after one separator at most. -/
theorem text_join (path : Path) (hname : IsName name) :
    (path.join name).text = path.text ++ name ∨
      (path.join name).text = path.text ++ "/" ++ name := by
  rcases path.join_cases hname.head?_ne with ⟨hempty, hjoin⟩ | ⟨-, hjoin⟩ | ⟨-, hjoin⟩
  · exact .inl (by rw [hjoin, hempty, String.empty_append])
  · exact .inl (by rw [hjoin])
  · exact .inr (by rw [hjoin])

theorem start_name (hname : IsName name) : start name.toList = [] := by
  unfold start
  split
  next heq => exact absurd (heq ▸ List.mem_cons_self) hname.separated
  next heq => exact absurd heq hname.ne_here
  next heq => exact absurd (heq ▸ List.mem_cons_of_mem _ List.mem_cons_self) hname.separated
  next => rfl

/-- A name is a path of one step. -/
theorem components_name (hname : IsName name) :
    components ⟨name⟩ = [.name name.toList] := by
  rw [components, start_name hname, pieces_name hname, List.nil_append]

/-- What stands in front of the steps is decided before the first separator. -/
theorem start_append_cons (front more : List Char) :
    start (front ++ '/' :: more) = start (front ++ ['/']) := by
  cases front with
  | nil => rfl
  | cons c front =>
      rw [start_append (List.cons_ne_nil c front), start_append (List.cons_ne_nil c front)]

/-- A name joined to a path is one more step behind the steps of the path. -/
theorem components_join (path : Path) (hname : IsName name) :
    (path.join name).components = path.components ++ [.name name.toList] := by
  rcases path.join_cases hname.head?_ne with
    ⟨hempty, hjoin⟩ | ⟨hslash, hjoin⟩ | ⟨⟨last, hlast, -⟩, hjoin⟩
  · have hpath : path.components = [] := by
      rw [components, hempty]
      rfl
    rw [hjoin, components_name hname, hpath, List.nil_append]
  · obtain ⟨front, hfront⟩ := List.getLast?_eq_some_iff.mp hslash
    have htext : (path.text ++ name).toList = front ++ '/' :: name.toList := by
      simp [hfront]
    -- the piece behind the last separator is empty, and the name takes its place
    have hnothing : (pieces []).filterMap step? = [] := rfl
    rw [hjoin, components, components, htext, hfront, start_append_cons front name.toList,
      pieces_append_cons, pieces_append_cons, List.filterMap_append, List.filterMap_append,
      pieces_name hname, hnothing, List.append_nil, List.append_assoc]
  · rw [hjoin]
    exact components_child (fun hnil => by simp [hnil] at hlast) hname

/-- A name joined to a path leads to an entry of the directory the path leads to. -/
theorem location_join (path : Path) (hname : IsName name) (origin : Location) :
    (path.join name).location origin = path.location origin ++ [name] := by
  rw [location, components_join path hname, destination_append]
  simp [destination, arrive, location]

end Path

namespace Config

/-- The output root of an accepted configuration is a child of the protocol path: it has
the steps of that path and one more, which is the name of the output directory; so it is
neither the protocol path nor one above it, and it starts where the protocol path does. -/
theorem outputRoot_isChild {config : Config} (hvalid : config.validate = .ok ()) :
    config.outputRoot.components =
        config.protocolPath.components ++ [.name config.outputName.toList] ∧
      config.outputName.toList ∉ [[], ['.'], ['.', '.']] ∧ '/' ∉ config.outputName.toList ∧
      ¬ config.outputRoot.components <+: config.protocolPath.components ∧
      config.protocolPath.text.toList <+: config.outputRoot.text.toList ∧
      (config.outputRoot.components.head? = some .root ↔
        config.protocolPath.components.head? = some .root) ∧
      ∀ origin, config.outputRoot.location origin =
        config.protocolPath.location origin ++ [config.outputName] := by
  have hname := isName_outputName (validate_eq_ok_iff.mp hvalid)
  have hsteps := Path.components_join config.protocolPath hname
  refine ⟨hsteps, ?_, hname.separated, ?_, ?_, ?_, Path.location_join config.protocolPath hname⟩
  · simp [hname.nonempty, hname.ne_here, hname.ne_up]
  · intro hprefix
    have hlength := hprefix.length_le
    rw [outputRoot, hsteps, List.length_append, List.length_singleton] at hlength
    omega
  · rw [outputRoot]
    obtain htext | htext := Path.text_join config.protocolPath hname <;>
      simp [htext]
  · rw [outputRoot, hsteps]
    cases config.protocolPath.components <;> simp

/-- A protocol path that goes up and ends in a separator, and a name with dots and a blank. -/
theorem outputRoot_isChild_blank :
    let config : Config := { Config.default with protocolPath := ⟨"a/../"⟩, outputName := " ..x" }
    config.validate = .ok () ∧
      config.outputRoot.components = [.name ['a'], .up, .name [' ', '.', '.', 'x']] ∧
      ∀ origin, config.outputRoot.location origin = origin ++ [" ..x"] := by
  intro config
  have hvalid : config.validate = .ok () := validate_eq_ok_iff.mpr (by decide +kernel)
  have hpath : config.protocolPath.components = [.name ['a'], .up] := by decide
  have hname : config.outputName.toList = [' ', '.', '.', 'x'] := by decide
  obtain ⟨hsteps, -, -, -, -, -, hlocation⟩ := outputRoot_isChild hvalid
  rw [hpath, hname] at hsteps
  refine ⟨hvalid, hsteps, fun origin => (hlocation origin).trans ?_⟩
  have hback : config.protocolPath.location origin = origin := by
    rw [Path.location, hpath]
    simp [destination, arrive]
  rw [hback]

end Config

end WireScript
