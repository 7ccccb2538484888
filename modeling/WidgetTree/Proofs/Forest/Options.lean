import WidgetTree.Proofs.Forest.Settings
import WidgetTree.Proofs.Forest.Views

namespace WidgetTree

namespace Forest

/-- The views of the options of a live widget show what the options were given. A widget keeps the
arguments of its constructor apart from what its options were configured with later; the views put
the two together. -/
structure ShowsOptions (forest : Forest) (widget : WidgetId) (record : Record)
    (history : OptionHistory) : Prop where
  once : history.names.Nodup
  stored : ∀ name, name ∈ history.names ↔
    name ∈ record.constructorArgs.keys ∨ name ∈ record.options.keys
  keys : ∀ args, (forest.invoke widget ⟨"keys", args⟩).1 =
    .ok (.list (history.names.map .string))
  cget : ∀ name rest keyword,
    (forest.invoke widget ⟨"cget", ⟨.string name :: rest, keyword⟩⟩).1 =
      .ok ((history.value? name).getD .null)
  /-- Behind the options stands what would stand there if there were none. -/
  line : ∀ depth level, ∃ behind,
    { record with constructorArgs := [], options := [] }.describe = record.widgetType ++ behind ∧
      (forest.lines (depth + 1) level widget).head? =
        some (String.ofList (List.replicate (2 * level) ' ') ++ (record.widgetType ++
          String.join (history.names.map fun name =>
            " " ++ name ++ "=" ++ ((history.value? name).getD .null).display) ++ behind))
  byOption : ∀ name value, widget ∈ forest.byOption name value ↔
    name ∈ history.names ∧ ((history.value? name).getD .null).same value = true

end Forest

private theorem Record.option?_isSome_iff {record : Record} {name : String} :
    (record.option? name).isSome = true ↔
      name ∈ record.constructorArgs.keys ∨ name ∈ record.options.keys := by
  rw [option?, Option.isSome_or, Bool.or_eq_true, Option.isSome_iff_exists,
    Option.isSome_iff_exists, ← Table.mem_keys_iff, ← Table.mem_keys_iff, or_comm]

namespace Record.Remembers

variable {record : Record} {history : OptionHistory}

private theorem option? (hremembers : record.Remembers history) (name : String) :
    record.option? name = history.value? name := by
  rw [Record.option?, hremembers.constructed, hremembers.configured, Table.get?_ofPairs,
    OptionHistory.value?]

private theorem optionNames (hremembers : record.Remembers history) :
    record.optionNames = history.names := by
  rw [Record.optionNames, hremembers.constructed, hremembers.configured, Table.keys_ofPairs,
    OptionHistory.names]
  congr 1
  refine List.filter_congr fun name _ => ?_
  rw [Table.has, Bool.not_eq_eq_eq_not]
  by_cases hname : name ∈ history.constructed.keys
  · obtain ⟨value, hvalue⟩ := Table.mem_keys_iff.mp hname
    simp [hname, hvalue]
  · simp [hname, Table.get?_eq_none_iff.mpr hname]

private theorem mem_names_iff (hremembers : record.Remembers history) {name : String} :
    name ∈ history.names ↔
      name ∈ record.constructorArgs.keys ∨ name ∈ record.options.keys := by
  rw [hremembers.constructed, hremembers.configured, Table.keys_ofPairs, OptionHistory.names,
    List.mem_append, List.mem_filter]
  by_cases hname : name ∈ history.constructed.keys <;> simp [hname]

end Record.Remembers

private theorem Behaviour.of_keys (widgetType : String) : of widgetType "keys" = .optionNames := by
  simp [of]

private theorem Behaviour.of_cget (widgetType : String) : of widgetType "cget" = .optionValue := by
  simp [of]

namespace Forest

section Views

variable {forest : Forest} {widget : WidgetId} {record : Record} {history : OptionHistory}

/-- The options stand between the type of a widget and the rest of its description. -/
theorem describe_options (record : Record) :
    ∃ behind, { record with constructorArgs := [], options := [] : Record }.describe =
        record.widgetType ++ behind ∧
      record.describe = record.widgetType ++ String.join (record.optionNames.map fun name =>
        " " ++ name ++ "=" ++ ((record.option? name).getD .null).display) ++ behind := by
  have hnone : { record with constructorArgs := [], options := [] : Record }.optionNames = [] := rfl
  simp only [Record.describe, hnone, List.map_nil, String.append_assoc]
  refine ⟨_, ?_, rfl⟩
  rw [String.join_nil, String.empty_append]

private theorem showsOptions_of_remembers (hsound : forest.Sound) {cls : WidgetClass}
    (hrecord : forest.record? widget = some record)
    (hclass : WidgetClass.ofName? record.widgetType = some cls)
    (hdistinct : Table.Distinct record.constructorArgs) (hremembers : record.Remembers history) :
    forest.ShowsOptions widget record history where
  once := by
    have hconfigured : (Table.ofPairs history.configured).keys.Nodup :=
      Table.distinct_ofPairs history.configured
    rw [Table.keys_ofPairs] at hconfigured
    rw [Table.Distinct, hremembers.constructed] at hdistinct
    refine List.nodup_append.mpr ⟨hdistinct, hconfigured.filter _, ?_⟩
    rintro name hname _ hother rfl
    exact of_decide_eq_true (List.mem_filter.mp hother).2 hname
  stored name := hremembers.mem_names_iff
  keys args := by
    have hleaves : forest.Leaves widget ⟨"keys", args⟩
        (.ok (.list (record.optionNames.map .string))) record :=
      leaves_of_perform hrecord rfl hclass rfl (Behaviour.of_keys _) (fun _ => rfl) rfl
    rw [← hremembers.optionNames]
    exact hleaves.1
  cget name rest keyword := by
    have hleaves : forest.Leaves widget ⟨"cget", ⟨.string name :: rest, keyword⟩⟩
        (.ok ((record.option? name).getD .null)) record :=
      leaves_of_perform hrecord rfl hclass rfl (Behaviour.of_cget _) (fun _ => rfl) rfl
    rw [← hremembers.option?]
    exact hleaves.1
  line depth level := by
    obtain ⟨behind, hbare, hdescribe⟩ := describe_options record
    refine ⟨behind, hbare, ?_⟩
    simp only [hremembers.optionNames, hremembers.option?] at hdescribe
    rw [lines, hrecord, ← hdescribe]
    rfl
  byOption name value := by
    have hfound : widget ∈ forest.byOption name value ↔
        (record.option? name).any (·.same value) = true := by
      rw [byOption, mem_search_iff hsound, hrecord]
      simp
    rw [hfound, ← hremembers.option?, hremembers.mem_names_iff, ← Record.option?_isSome_iff]
    cases record.option? name <;> simp

end Views

/-- Whatever is asked of the empty forest, the views of the options of a live widget show what the
widget was given. -/
theorem showsOptions_serveAll {requests : List Request}
    (hdistinct : ∀ widgetType parent args, .construct widgetType parent args ∈ requests →
      Table.Distinct args) {widget : WidgetId} {record : Record}
    (hrecord : (empty.serveAll requests).record? widget = some record) :
    (empty.serveAll requests).ShowsOptions widget record (empty.optionHistory widget requests) := by
  have hreachable : (empty.serveAll requests).Reachable := ⟨requests, rfl⟩
  obtain ⟨cls, hclass⟩ := hreachable.catalogued widget record hrecord
  have hremembers := (remembers_serveAll requests).1 widget record hrecord
  exact showsOptions_of_remembers hreachable.sound hrecord hclass
    (distinct_constructorArgs hdistinct hrecord) hremembers

/-- A window that was given a title twice. -/
theorem window_shows_options :
    let requests : List Request :=
      [.construct "Tk" none [("title", .string "One"), ("width", .int 3)],
        .invoke ⟨1⟩ ⟨"configure", ⟨[], [("bg", .string "red"), ("width", .int 4)]⟩⟩,
        .invoke ⟨1⟩ ⟨"title", ⟨[.string "Two"], []⟩⟩,
        .invoke ⟨1⟩ ⟨"configure", ⟨[.null], [("fg", .string "blue")]⟩⟩]
    let history := empty.optionHistory ⟨1⟩ requests
    history.names = ["title", "width", "bg"] ∧ history.value? "title" = some (.string "Two") ∧
      ∃ record, (empty.serveAll requests).record? ⟨1⟩ = some record ∧
        (empty.serveAll requests).ShowsOptions ⟨1⟩ record history := by
  intro requests history
  refine ⟨rfl, rfl, _, rfl, showsOptions_serveAll ?_ rfl⟩
  intro widgetType parent args hmem
  obtain ⟨-, -, rfl⟩ : widgetType = "Tk" ∧ parent = none ∧
      args = [("title", .string "One"), ("width", .int 3)] := by
    simpa [requests] using hmem
  rw [Table.Distinct]
  decide

end Forest

end WidgetTree
