/-
**A column is served as its type is.**

The field of a column keeps the conversion that the registry served when the field was made. The
registry goes on settling types, and the finished schema serves conversions by type id. Both ways of
serving agree.

* `ColumnField.served`: a field made for a column resolves like the schema decodes values of its
  type.
* `columns_served_as_decoded`: all fields of columns in every schema that a build makes, whichever
  plugins take part, as long as no hooks on fields do but the one that identifies rows.
-/

import CatalogSchema.Proofs.Build.Standard

namespace CatalogSchema

open Build

/-! ### One field -/

/-- How a field of a column is served. It holds the conversion that the schema serves for the
column's type, and for a row with the column it answers as decoding by type id does, with an error
of the conversion inside one that names the field. A row without the column is an error of the field
that names the column. -/
structure ServedColumn (schema : Schema) (column : Attribute) (field : Field) : Prop where
  name : field.name = schema.setting.naming.columnField column.name
  source : ∃ served, schema.registry.codecFor schema.setting column.typeId = .ok served ∧
    field.source = .column column.name served.codec
  present : ∀ {row value}, row.field? column.name = some value →
    schema.resolve field row = (schema.decode column.typeId value).mapError (.inField field.name)
  absent : ∀ {row}, row.field? column.name = none →
    schema.resolve field row = .error (.inField field.name (.missingColumn column.name))
  presentCached : ∀ {row value} cache, row.field? column.name = some value →
    field.resolveCached (aliasesOf schema.tables) row cache =
      ((schema.registry.decodeCached schema.setting column.typeId value cache).1.mapError
        (.inField field.name),
        (schema.registry.decodeCached schema.setting column.typeId value cache).2)
  absentCached : ∀ {row} cache, row.field? column.name = none →
    field.resolveCached (aliasesOf schema.tables) row cache =
      (.error (.inField field.name (.missingColumn column.name)), cache)

section Resolving

variable {m : Type → Type} [Monad m] [LawfulMonad m]
  {readInterval : String → ExceptT ConversionError m Interval} {aliases : AliasTable → NodeAliases}
  {field : Field} {column : String} {codec : Codec} {row : Json}

/-- The value of a column, however interval literals are read. -/
theorem Field.resolveWith_of_present {value : Json} (source : field.source = .column column codec)
    (present : row.field? column = some value) :
    field.resolveWith readInterval aliases row =
      ExceptT.adapt (.inField field.name) (codec.decodeWith readInterval value) := by
  have found : Codec.lift (columnValue row column) =
      (pure value : ExceptT ConversionError m Json) := by
    unfold columnValue
    rw [present]
    rfl
  unfold Field.resolveWith FieldSource.resolveWith
  rw [source]
  dsimp only
  rw [found, pure_bind]

/-- An error that ends a step is worded differently with it. -/
theorem adapt_throw_bind {ε ε' α β : Type} (change : ε → ε') (error : ε)
    (next : α → ExceptT ε m β) :
    ExceptT.adapt change (throw error >>= next : ExceptT ε m β) = throw (change error) := by
  apply ExceptT.ext
  show Except.mapError change <$> (throw error >>= next : ExceptT ε m β).run =
    pure (.error (change error))
  rw [ExceptT.run_bind, ExceptT.run_throw, pure_bind, map_pure]
  rfl

/-- A column that the row does not have. -/
theorem Field.resolveWith_of_absent (source : field.source = .column column codec)
    (absent : row.field? column = none) :
    field.resolveWith readInterval aliases row =
      throw (.inField field.name (.missingColumn column)) := by
  have missing : Codec.lift (columnValue row column) =
      (throw (.missingColumn column) : ExceptT ConversionError m Json) := by
    unfold columnValue
    rw [absent]
    rfl
  unfold Field.resolveWith FieldSource.resolveWith
  rw [source]
  dsimp only
  rw [missing, adapt_throw_bind]

end Resolving

/-- **A field made for a column is served as the type of the column is.** -/
theorem ColumnField.served {schema : Schema} {column : Attribute} {field : Field}
    (made : ColumnField schema.setting schema.registry column field) :
    ServedColumn schema column field := by
  obtain ⟨served, serves, source⟩ := made.source
  refine ⟨made.name, ⟨served, serves, source⟩,
    fun {row value} present => ?_, fun {row} absent => ?_,
    fun {row value} cache present => ?_, fun {row} cache absent => ?_⟩
  · unfold Schema.resolve Field.resolve Schema.decode Registry.decode
    rw [Field.resolveWith_of_present source present, serves]
    rfl
  · unfold Schema.resolve Field.resolve
    rw [Field.resolveWith_of_absent source absent]
    rfl
  · unfold Field.resolveCached Registry.decodeCached
    rw [Field.resolveWith_of_present source present, serves]
    rfl
  · unfold Field.resolveCached
    rw [Field.resolveWith_of_absent source absent]
    rfl

/-! ### Every column of a schema -/

/-- **Both ways of serving a column agree.** Let a catalog be built with the plugin for row types
and any others that leave the fields alone or identify rows: those for well-known types and for
identifiers, or plugins that register overrides and ask for types, before the row types are built or
after. When the build succeeds, the object of every row type has one field for each column, in their
order, which is served as the schema decodes values of the column's type; its other fields read no
column. -/
theorem columns_served_as_decoded (catalog : Catalog) (naming : Naming) (config : Config)
    {plugins : List Plugin} (listed : Plugin.tables ∈ plugins)
    (fit : ∀ plugin ∈ plugins, plugin.OnlyIdentifies (.of catalog naming config) fun _ => True)
    {schema : Schema}
    (built : (runIn (buildSchema (.of catalog naming config) plugins) .initial).1 = .ok schema) :
    schema.setting = .of catalog naming config ∧
      ∀ table ∈ catalog.composites, ∃ entry columns others,
      schema.entryOf? table.id = some entry ∧
      schema.registry.pool.fieldsOf entry.output = columns ++ others ∧
      List.Forall₂ (ServedColumn schema) table.attributes columns ∧
      ∀ field ∈ others, ¬field.ReadsColumn := by
  have ran : Yields (buildSchema (.of catalog naming config) plugins) .initial schema
      (runIn (buildSchema (.of catalog naming config) plugins) .initial).2 := Prod.ext built rfl
  have settled := tablesSettled_of_buildSchema (fun _ _ => trivial) (fun registers => by
    have prepared := prepared_of_registered listed fit registers
    exact ⟨prepared, prepared.finishes⟩) ran
  have fixed := settled.fixed
  refine ⟨fixed, fun table here => ?_⟩
  obtain ⟨outputSerial, inputSerial, columns, others, plain, made⟩ := settled.tables table here
  rw [← fixed] at made
  exact ⟨_, columns, others, made.settled, TypePool.fieldsOf_of_found made.fields,
    made.each.imp fun _ _ field => field.served, plain⟩

/-- A script that overrides a type, and asks for types before the row types are built. -/
def askingPlugin : Plugin := .script "Asking" [
  .override 999 ⟨.scalar 3 "String" none .string, none, none⟩ .yield,
  .onState ⟨"notes", none, ["notes"]⟩,
  .onTypes ⟨"asks", [201], [203], [], none, none⟩]

/-- Columns of a number type, of the row type itself and of lists of domains over it are served as
their types are, in a build where these types were asked for early. -/
theorem columns_served_as_decoded_sample :
    let plugins := [.nodeIds [("node", "Node")], askingPlugin, .tables, .standardTypes]
    (Plugin.tables ∈ plugins ∧
      ∀ plugin ∈ plugins,
        plugin.OnlyIdentifies (.of sampleTables .qualified .default) fun _ => True) ∧
    ∃ schema, (runIn (buildSchema (.of sampleTables .qualified .default) plugins) .initial).1 =
      .ok schema ∧
      ∀ table ∈ sampleTables.composites, ∃ entry columns others,
        schema.entryOf? table.id = some entry ∧
        schema.registry.pool.fieldsOf entry.output = columns ++ others ∧
        List.Forall₂ (ServedColumn schema) table.attributes columns ∧
        ∀ field ∈ others, ¬field.ReadsColumn := by
  intro plugins
  have listed : Plugin.tables ∈ plugins := by simp [plugins]
  have scalars : (Setting.of sampleTables .qualified .default).scalars.Nullable :=
    StandardScalars.nullable_make _
  have fit : ∀ plugin ∈ plugins,
      plugin.OnlyIdentifies (.of sampleTables .qualified .default) fun _ => True := by
    simp only [plugins, List.forall_mem_cons]
    exact ⟨onlyIdentifies_nodeIds _, onlyIdentifies_script (fun _ _ => trivial) _ (by
      simp [Script.Action.LeavesFields]), onlyIdentifies_tables fun _ _ => trivial,
      onlyIdentifies_standardTypes scalars fun _ _ => trivial, nofun⟩
  have succeeds : (runIn (buildSchema (.of sampleTables .qualified .default) plugins)
      .initial).1.isOk = true := by decide +kernel
  cases built : (runIn (buildSchema (.of sampleTables .qualified .default) plugins) .initial).1 with
  | error error =>
    rw [built] at succeeds
    cases succeeds
  | ok schema =>
    obtain ⟨-, tables⟩ :=
      columns_served_as_decoded sampleTables .qualified .default listed fit built
    exact ⟨⟨listed, fit⟩, schema, rfl, tables⟩

end CatalogSchema
