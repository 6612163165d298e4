import Restack.Target.File
import Restack.Time.Moment
import Restack.Value.Writer

/-!
# Files of a generated project

The files that a generated project has beside those of its nodes: what its build needs, a page to
start from, and a file that tells about the conversion.
-/

namespace Restack.Target

/-- The description of a Flutter project. -/
def pubspec : String :=
  Text.joined "\n"
    ["name: converted_flutter_app",
      "description: Converted Flutter application",
      "version: 1.0.0+1",
      "",
      "environment:",
      "  sdk: '>=3.0.0 <4.0.0'",
      "  flutter: \">=3.10.0\"",
      "",
      "dependencies:",
      "  flutter:",
      "    sdk: flutter",
      "  cupertino_icons: ^1.0.6",
      "",
      "dev_dependencies:",
      "  flutter_test:",
      "    sdk: flutter",
      "  flutter_lints: ^3.0.0",
      "",
      "flutter:",
      "  uses-material-design: true",
      ""]

/-- The start of a Flutter app. -/
def flutterMain : String :=
  Text.joined "\n"
    ["import 'package:flutter/material.dart';",
      "",
      "void main() \x7b",
      "  runApp(const MyApp());",
      "\x7d",
      "",
      "class MyApp extends StatelessWidget \x7b",
      "  const MyApp(\x7bKey? key\x7d) : super(key: key);",
      "",
      "  @override",
      "  Widget build(BuildContext context) \x7b",
      "    return MaterialApp(",
      "      title: 'Converted Flutter App',",
      "      theme: ThemeData(",
      "        primarySwatch: Colors.blue,",
      "      ),",
      "      home: const ConvertedHomePage(),",
      "    );",
      "  \x7d",
      "\x7d",
      "",
      "class ConvertedHomePage extends StatefulWidget \x7b",
      "  const ConvertedHomePage(\x7bKey? key\x7d) : super(key: key);",
      "",
      "  @override",
      "  State<ConvertedHomePage> createState() => _ConvertedHomePageState();",
      "\x7d",
      "",
      "class _ConvertedHomePageState extends State<ConvertedHomePage> \x7b",
      "  @override",
      "  Widget build(BuildContext context) \x7b",
      "    return Scaffold(",
      "      appBar: AppBar(",
      "        title: const Text('Converted App'),",
      "      ),",
      "      body: const Center(",
      "        child: Text('Welcome to your converted Flutter app!'),",
      "      ),",
      "    );",
      "  \x7d",
      "\x7d"]

/-- The build of an Android project. -/
def gradleBuild : String :=
  Text.joined "\n"
    ["plugins \x7b",
      "    id(\"com.android.application\")",
      "    id(\"org.jetbrains.kotlin.android\")",
      "\x7d",
      "",
      "android \x7b",
      "    namespace = \"com.example.convertedapp\"",
      "    compileSdk = 34",
      "",
      "    defaultConfig \x7b",
      "        applicationId = \"com.example.convertedapp\"",
      "        minSdk = 24",
      "        targetSdk = 34",
      "        versionCode = 1",
      "        versionName = \"1.0\"",
      "    \x7d",
      "",
      "    compileOptions \x7b",
      "        sourceCompatibility = JavaVersion.VERSION_1_8",
      "        targetCompatibility = JavaVersion.VERSION_1_8",
      "    \x7d",
      "    kotlinOptions \x7b",
      "        jvmTarget = \"1.8\"",
      "    \x7d",
      "    buildFeatures \x7b",
      "        compose = true",
      "    \x7d",
      "    composeOptions \x7b",
      "        kotlinCompilerExtensionVersion = \"1.5.8\"",
      "    \x7d",
      "\x7d",
      "",
      "dependencies \x7b",
      "    implementation(\"androidx.core:core-ktx:1.12.0\")",
      "    implementation(\"androidx.lifecycle:lifecycle-runtime-ktx:2.7.0\")",
      "    implementation(\"androidx.activity:activity-compose:1.8.2\")",
      "    implementation(\"androidx.compose.ui:ui:1.5.8\")",
      "    implementation(\"androidx.compose.material3:material3:1.1.2\")",
      "    androidTestImplementation(\"androidx.compose.ui:ui-test-junit4:1.5.8\")",
      "\x7d"]

/-- The start of an Android app. -/
def mainActivity : String :=
  Text.joined "\n"
    ["package com.example.app",
      "",
      "import android.os.Bundle",
      "import androidx.activity.ComponentActivity",
      "import androidx.activity.compose.setContent",
      "import androidx.compose.foundation.layout.*",
      "import androidx.compose.material3.*",
      "import androidx.compose.runtime.*",
      "import androidx.compose.ui.Alignment",
      "import androidx.compose.ui.Modifier",
      "import androidx.compose.ui.unit.dp",
      "",
      "class MainActivity : ComponentActivity() \x7b",
      "    override fun onCreate(savedInstanceState: Bundle?) \x7b",
      "        super.onCreate(savedInstanceState)",
      "        setContent \x7b",
      "            ConvertedApp()",
      "        \x7d",
      "    \x7d",
      "\x7d",
      "",
      "@OptIn(ExperimentalMaterial3Api::class)",
      "@Composable",
      "fun ConvertedApp() \x7b",
      "    Scaffold(",
      "        topBar = \x7b",
      "            TopAppBar(",
      "                title = \x7b Text(\"Converted App\") \x7d",
      "            )",
      "        \x7d",
      "    ) \x7b paddingValues ->",
      "        Column(",
      "            modifier = Modifier",
      "                .fillMaxSize()",
      "                .padding(paddingValues)",
      "                .padding(16.dp),",
      "            horizontalAlignment = Alignment.CenterHorizontally,",
      "            verticalArrangement = Arrangement.Center",
      "        ) \x7b",
      "            Text(\"Welcome to your converted Kotlin Compose app!\")",
      "        \x7d",
      "    \x7d",
      "\x7d"]

/-- The start of a React app. -/
def reactIndex : String :=
  Text.joined "\n"
    ["import React from 'react';",
      "import \x7b createRoot \x7d from 'react-dom/client';",
      "",
      "const ConvertedApp: React.FC = () => (",
      "  <div>",
      "    <h1>Welcome to your converted React app!</h1>",
      "  </div>",
      ");",
      "",
      "const root = createRoot(document.getElementById('root') as HTMLElement);",
      "root.render(<ConvertedApp />);",
      ""]

/-- Fields of texts. -/
def textFields (fields : List (String × String)) : Value :=
  .object (fields.map fun entry => (entry.1, .str entry.2))

/-- The description of a React project. -/
def reactPackage (withTests : Bool) : String :=
  let forTests :=
    if withTests then
      [("@testing-library/react", "^14.0.0"), ("@testing-library/jest-dom", "^6.1.0")]
    else []
  let package : Value :=
    .object
      [("name", .str "converted-react-app"), ("version", .str "1.0.0"), ("private", .bool true),
        ("scripts",
          textFields
            [("start", "react-scripts start"), ("build", "react-scripts build"),
              ("test", "react-scripts test")]),
        ("dependencies",
          textFields
            [("react", "^18.2.0"), ("react-dom", "^18.2.0"), ("react-scripts", "5.0.1")]),
        ("devDependencies",
          textFields
            ([("@types/react", "^18.2.0"), ("@types/react-dom", "^18.2.0"),
                ("typescript", "^5.0.0")] ++ forTests))]
  Value.write .pretty package ++ "\n"

/-- The file that tells about a conversion. -/
def readme (source target : String) (files nodes : Int) (moment : Time.Moment) : String :=
  Text.joined "\n"
    ["# Converted Project",
      "",
      "This project was automatically converted from **" ++ source ++ "** to **" ++ target ++
        "** with file-by-file conversion.",
      "",
      "## Conversion Summary",
      "- Files processed: " ++ toString files,
      "- Components converted: " ++ toString nodes,
      "- Source framework: " ++ source,
      "- Target framework: " ++ target,
      "- Conversion date: " ++ moment.text,
      "- Conversion method: AST → UIR → Target Framework",
      "",
      "## Architecture",
      "The conversion process:",
      "1. **AST Parsing**: Each source file parsed into Abstract Syntax Tree",
      "2. **UIR Generation**: AST converted to Universal Intermediate Representation",
      "3. **Target Generation**: UIR converted to " ++ target ++ " templates",
      "4. **Project Structure**: Generated " ++ target ++ " project layout",
      "",
      "## Getting Started",
      "",
      "### For Flutter:",
      "1. Run `flutter pub get`",
      "2. Run `flutter run`",
      "",
      "### For Kotlin Compose:",
      "1. Open in Android Studio",
      "2. Sync project with Gradle",
      "3. Run the app",
      "",
      "### For TypeScript:",
      "1. Run `npm install`",
      "2. Run `npm start`",
      "",
      "## Notes",
      "- Component names, props and state are carried over; component bodies are placeholders",
      "- Function bodies and event handlers are not translated",
      "- Original file references are preserved in comments",
      "",
      "Generated by stackshift",
      ""]

end Restack.Target
