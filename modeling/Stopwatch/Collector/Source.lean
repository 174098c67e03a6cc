/-
  The source text of the collector.

  This text is put into instrumented programs.  It defines the class of collectors,
  and its last line makes the collector of the process and installs it.
-/

namespace Stopwatch.Collector

/-- The name that the collector of a process is bound to.  It occurs in every
instrumented text and so tells whether a text has been instrumented. -/
def markerName : String := "_async_profiler_metrics"

/-- The name of the class of collectors. -/
def className : String := "_AsyncProfilerMetrics"

/-- The lines that define the class of collectors. -/
def definitionLines : List String :=
  ["class _AsyncProfilerMetrics:",
   "    \"\"\"Lock-guarded, append-only buffer of per-call latency records.",
   "",
   "    Records are written to a JSON sidecar file when the process exits, then",
   "    a single marker line naming that file is printed to stdout.",
   "    \"\"\"",
   "",
   "    MARKER = \"__ASYNC_PROFILER_METRICS__\"",
   "    LEGACY_TAG = \"[Latency]\"",
   "",
   "    def __init__(self, output_path):",
   "        import threading",
   "        import time",
   "",
   "        self.output_path = output_path",
   "        self.clock = time.perf_counter",
   "        self._records = []",
   "        self._lock = threading.Lock()",
   "        self._flushed = False",
   "",
   "    @classmethod",
   "    def for_process(cls):",
   "        \"\"\"Collector writing to a pid-specific file in the temp directory.\"\"\"",
   "        import os",
   "        import tempfile",
   "",
   "        path = os.path.join(tempfile.gettempdir(), f\"async_profile_\x7bos.getpid()\x7d.json\")",
   "        if os.path.exists(path):",
   "            os.remove(path)",
   "        return cls(path)",
   "",
   "    def install(self):",
   "        \"\"\"Flush on interpreter exit. Returns self for chaining.\"\"\"",
   "        import atexit",
   "",
   "        atexit.register(self.flush)",
   "        return self",
   "",
   "    def record(self, function, duration, line, file):",
   "        import threading",
   "        import time",
   "",
   "        entry = \x7b",
   "            \"function\": function,",
   "            \"duration\": duration,",
   "            \"timestamp\": time.time(),",
   "            \"line\": line,",
   "            \"file\": file,",
   "            \"threadId\": threading.get_ident(),",
   "        \x7d",
   "        with self._lock:",
   "            self._records.append(entry)",
   "",
   "    def snapshot(self):",
   "        with self._lock:",
   "            return list(self._records)",
   "",
   "    def flush(self):",
   "        \"\"\"Write the sidecar file and print the marker line.",
   "",
   "        If the file cannot be written, every record is printed as a legacy",
   "        `[Latency] name: seconds` line instead.",
   "        \"\"\"",
   "        import json",
   "        import os",
   "        import sys",
   "",
   "        if self._flushed:",
   "            return None",
   "        self._flushed = True",
   "        entries = self.snapshot()",
   "        sys.stderr.flush()",
   "        sys.stdout.flush()",
   "",
   "        try:",
   "            with open(self.output_path, \"w\", encoding=\"utf-8\") as f:",
   "                json.dump(entries, f, indent=2, sort_keys=True)",
   "        except OSError as exc:",
   "            print(f\"Failed to write metrics: \x7bexc\x7d\", flush=True)",
   "            for entry in entries:",
   "                print(f\"\x7bself.LEGACY_TAG\x7d \x7bentry['function']\x7d: \x7bentry['duration']:.6f\x7ds\")",
   "            sys.stdout.flush()",
   "            return None",
   "",
   "        sys.stdout.write(f\"\x7bself.MARKER\x7d:\x7bos.path.abspath(self.output_path)\x7d\\n\")",
   "        sys.stdout.flush()",
   "        return self.output_path"]

/-- The statement that makes and installs the collector of a process. -/
def installStatement : String :=
  markerName ++ " = " ++ className ++ ".for_process().install()\n"

/-- The definition of the collector and the statement that installs it. -/
def sourceText : String :=
  String.intercalate "\n" definitionLines ++ "\n\n\n" ++ installStatement

/-- The comment in front of the collector. -/
def comment : String := "# Auto-injected async latency collector"

/-- The text of a module that holds nothing but the collector. -/
def moduleText : String :=
  comment ++ "\n" ++ sourceText

/-- The name of the module that holds the collector of a package. -/
def moduleName : String := "_async_profiler_runtime"

end Stopwatch.Collector
