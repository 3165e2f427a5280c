/-
This file names the packages of the Go standard library that generated code can refer to.
A package is imported by its path and referred to by its qualifier, the last part of the
path. The packages are listed in the order of the code points of their paths, which is
the order of an import block.
-/

namespace CurlScribe.Go

/-- A package that generated code can refer to. -/
inductive Package where
  | bytes
  | tls
  | json
  | io
  | http
  | url
  | os
  | strings
  deriving DecidableEq, Repr

namespace Package

/-- The path that an import names. -/
def path : Package → String
  | .bytes => "bytes"
  | .tls => "crypto/tls"
  | .json => "encoding/json"
  | .io => "io"
  | .http => "net/http"
  | .url => "net/url"
  | .os => "os"
  | .strings => "strings"

/-- The name that code refers to the package by. -/
def qualifier : Package → String
  | .bytes => "bytes"
  | .tls => "tls"
  | .json => "json"
  | .io => "io"
  | .http => "http"
  | .url => "url"
  | .os => "os"
  | .strings => "strings"

/-- All packages in the order of an import block. -/
def inOrder : List Package :=
  [.bytes, .tls, .json, .io, .http, .url, .os, .strings]

theorem mem_inOrder (package : Package) : package ∈ inOrder := by
  cases package <;> decide

theorem nodup_inOrder : inOrder.Nodup := by decide

/-- The paths stand in increasing order. -/
theorem pairwise_path_inOrder : inOrder.Pairwise fun first second => first.path < second.path := by
  decide

end Package

end CurlScribe.Go
