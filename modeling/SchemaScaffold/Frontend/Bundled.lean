import SchemaScaffold.Stub.Packaged

/-!
# The bundled parser script

The script that is handed to the JavaScript interpreter when no other one is configured. It reads
a schema in DBML and prints an export of it as JSON.
-/

namespace SchemaScaffold.Frontend

/-- The bundled parser script. -/
def bundledScript : String := Stub.ofLines
  ["'use strict';",
   "",
   "// Reads DBML on stdin and prints the parsed database as plain JSON.",
   "// Only the keys consumed downstream are kept, which also drops the",
   "// parent back-references that make the parser's objects cyclic.",
   "",
   "const \x7b Parser \x7d = require('@dbml/core');",
   "",
   "function pick(source, keys) \x7b",
   "  const out = \x7b\x7d;",
   "  keys.forEach((key) => \x7b",
   "    if (source[key] !== undefined) \x7b",
   "      out[key] = source[key];",
   "    \x7d",
   "  \x7d);",
   "  return out;",
   "\x7d",
   "",
   "function exportType(type) \x7b",
   "  if (!type || typeof type !== 'object') \x7b",
   "    return type ?? null;",
   "  \x7d",
   "  return pick(type, ['type_name', 'schemaName', 'args', 'originalTypeName']);",
   "\x7d",
   "",
   "function exportDatabase(database) \x7b",
   "  return \x7b",
   "    schemas: database.schemas.map((schema) => (\x7b",
   "      name: schema.name,",
   "      tables: schema.tables.map((table) => (\x7b",
   "        name: table.name,",
   "        note: table.note || null,",
   "        fields: table.fields.map((field) => (\x7b",
   "          ...pick(field, ['name', 'pk', 'unique', 'not_null', 'increment', 'note', 'dbdefault']),",
   "          type: exportType(field.type),",
   "        \x7d)),",
   "        indexes: (table.indexes || []).map((index) => (\x7b",
   "          ...pick(index, ['name', 'type', 'unique', 'pk']),",
   "          columns: (index.columns || []).map((column) => pick(column, ['type', 'value'])),",
   "        \x7d)),",
   "      \x7d)),",
   "      enums: schema.enums.map((item) => (\x7b",
   "        name: item.name,",
   "        values: item.values.map((value) => (\x7b name: value.name \x7d)),",
   "      \x7d)),",
   "      refs: schema.refs.map((ref) => (\x7b",
   "        ...pick(ref, ['name', 'color', 'onDelete', 'onUpdate']),",
   "        endpoints: ref.endpoints.map((endpoint) => pick(endpoint, ['schemaName', 'tableName', 'fieldNames', 'relation'])),",
   "      \x7d)),",
   "    \x7d)),",
   "  \x7d;",
   "\x7d",
   "",
   "function errorMessage(error) \x7b",
   "  return error?.message",
   "    || error?.diags?.[0]?.message",
   "    || error?.errors?.[0]?.message",
   "    || String(error)",
   "    || 'parse failed';",
   "\x7d",
   "",
   "const chunks = [];",
   "process.stdin.setEncoding('utf8');",
   "process.stdin.on('data', (chunk) => chunks.push(chunk));",
   "process.stdin.on('end', () => \x7b",
   "  try \x7b",
   "    const database = new Parser().parse(chunks.join(''), 'dbml');",
   "    process.stdout.write(JSON.stringify(exportDatabase(database)));",
   "  \x7d catch (error) \x7b",
   "    console.error(errorMessage(error));",
   "    process.exit(1);",
   "  \x7d",
   "\x7d);"]

end SchemaScaffold.Frontend
