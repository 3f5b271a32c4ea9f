/-!
# The packaged stubs

The stubs that are used when a project brings none of its own.
-/

namespace SchemaScaffold.Stub

/-- Lines, each with its line end. -/
def ofLines (lines : List String) : String :=
  String.join (lines.map (· ++ "\n"))

/-- The stub of a model class. -/
def packagedModel : String := ofLines
  ["<?php",
   "",
   "namespace App\\Models;",
   "",
   "use Illuminate\\Database\\Eloquent\\Model;",
   "",
   "class \x7b\x7b modelName \x7d\x7d extends Model",
   "\x7b",
   "    \x7b\x7b tableProperty \x7d\x7dprotected $fillable = [",
   "        \x7b\x7b fillable \x7d\x7d",
   "    ];",
   "",
   "    protected $casts = [",
   "        \x7b\x7b casts \x7d\x7d",
   "    ];",
   "",
   "    \x7b\x7b relations \x7d\x7d",
   "\x7d"]

/-- The stub of a migration. -/
def packagedMigration : String := ofLines
  ["<?php",
   "",
   "use Illuminate\\Database\\Migrations\\Migration;",
   "use Illuminate\\Database\\Schema\\Blueprint;",
   "use Illuminate\\Support\\Facades\\DB;",
   "use Illuminate\\Support\\Facades\\Schema;",
   "",
   "return new class extends Migration",
   "\x7b",
   "    public function up(): void",
   "    \x7b",
   "        Schema::create('\x7b\x7b tableName \x7d\x7d', function (Blueprint $table) \x7b",
   "\x7b\x7b fields \x7d\x7d\x7b\x7b indexes \x7d\x7d",
   "        \x7d);",
   "    \x7d",
   "",
   "    public function down(): void",
   "    \x7b",
   "        Schema::dropIfExists('\x7b\x7b tableName \x7d\x7d');",
   "    \x7d",
   "\x7d;"]

end SchemaScaffold.Stub
